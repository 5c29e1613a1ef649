import TaskQueQue.AdmissionLanguage
import TaskQueQue.JsonText

/-!
# Capability sessions, issued and verified

The issuer writes a grant into a token; the verifier reads it back until it
expires. The two are written apart, with limits of their own: the issuer's grants
and lifetimes have to fit the verifier's bound on tokens, its alphabet and its
checks on claims.

A session for the OAuth resource is signed under a secret derived from the root
token. Digests are the platform's; where secrets are kept apart, the tags the
deployment computes are taken to be distinct, and no secret to hold its own tag.
-/

namespace CapabilitySessions

open GatewayValues Capabilities CapabilityAuth JsonText
open RequestRendering (ascii byteOf encode_ascii length_encode)
open JsonStrings (unescaped quoteChar_unescaped quote_unescaped)

def MIN_CAPABILITY_SESSION_TTL_SECONDS : Int := 60

/-- The furthest a time value reaches from the epoch, in milliseconds. -/
def MAX_TIME_VALUE : Nat := 8640000000000000

structure CapabilitySessionIssue where
  token : String
  claims : CapabilitySessionClaims

/-- The claims as the issuer writes them. -/
def claimsJson (claims : CapabilitySessionClaims) : Json :=
  .obj [("v", .num 1), ("sid", .str claims.sid), ("iat", .num claims.iat), ("exp", .num claims.exp),
    ("depth", .num (claims.depth : Int)), ("authority", .num (claims.authority : Int)),
    ("scopes", .arr (claims.scopes.map .str))]

def grantErrors (grant : CapabilityGrant) : List String :=
  validateCapabilityGrant (some (.num (grant.depth : Int))) (some (.num (grant.authority : Int)))
    (some (.arr (grant.scopes.map .str)))

def signPayload (web : WebRuntime) (secret payload : String) : List UInt8 :=
  web.hmac secret (SIGNING_DOMAIN ++ "." ++ payload)

/-- `sid` is what `crypto.randomUUID` answers. -/
def issueCapabilitySession (web : WebRuntime) (sid secret : String) (grant : CapabilityGrant)
    (ttlSeconds : ℚ) (nowMs : Int) : Except String CapabilitySessionIssue :=
  if secret = "" then .error "capability session signing secret is required"
  else if grantErrors grant ≠ [] then
    .error ("invalid capability grant: " ++ ", ".intercalate (grantErrors grant))
  else if ttlSeconds.den ≠ 1 ∨ ttlSeconds.num < MIN_CAPABILITY_SESSION_TTL_SECONDS ∨
      MAX_CAPABILITY_SESSION_TTL_SECONDS < ttlSeconds.num then
    .error "ttlSeconds must be between 60 and 86400"
  else
    let issuedAt := nowMs / 1000
    let claims : CapabilitySessionClaims :=
      { sid, iat := issuedAt, exp := issuedAt + ttlSeconds.num, depth := grant.depth,
        authority := grant.authority, scopes := grant.scopes }
    let payload := base64UrlEncode (encode (web.stringify (claimsJson claims)))
    let signature := base64UrlEncode (signPayload web secret payload)
    .ok ⟨SESSION_TOKEN_PREFIX ++ "." ++ payload ++ "." ++ signature, claims⟩

/-! ### Base64 -/

theorem sextet?_alphabet : ∀ n : Fin 64, sextet? (base64UrlAlphabet.getD n 'A') = some n.val := by
  decide +kernel

theorem alphabet_plain : ∀ n : Fin 64, ascii (base64UrlAlphabet.getD n 'A') = true ∧
    base64UrlAlphabet.getD n 'A' ≠ '.' := by
  decide +kernel

theorem encodeSextets_lt : ∀ (bytes : List Nat), (∀ byte ∈ bytes, byte < 256) →
    ∀ n ∈ encodeSextets bytes, n < 64
  | [], _ => by simp [encodeSextets]
  | [a], small => by
    have ha := small a (by simp)
    simp only [encodeSextets, List.mem_cons, List.not_mem_nil, or_false]
    omega
  | [a, b], small => by
    have ha := small a (by simp)
    have hb := small b (by simp)
    simp only [encodeSextets, List.mem_cons, List.not_mem_nil, or_false]
    omega
  | a :: b :: c :: rest, small => by
    have ha := small a (by simp)
    have hb := small b (by simp)
    have hc := small c (by simp)
    have others := encodeSextets_lt rest fun byte mem => small byte (by simp [mem])
    intro n mem
    simp only [encodeSextets, List.mem_cons] at mem
    rcases mem with rfl | rfl | rfl | rfl | mem
    · omega
    · omega
    · omega
    · omega
    · exact others n mem

theorem length_encodeSextets : ∀ bytes : List Nat,
    (encodeSextets bytes).length = (4 * bytes.length + 2) / 3
  | [] => rfl
  | [_] => by simp only [encodeSextets, List.length_cons, List.length_nil]
  | [_, _] => by simp only [encodeSextets, List.length_cons, List.length_nil]
  | _ :: _ :: _ :: rest => by
    simp only [encodeSextets, List.length_cons, length_encodeSextets rest]
    omega

theorem byte_ext {n : Nat} (byte : UInt8) (h : n = byte.toNat) : UInt8.ofNat n = byte := by
  rw [h, UInt8.ofNat_toNat]

theorem decodeSextets_encodeSextets : ∀ bytes : List UInt8,
    decodeSextets (encodeSextets (bytes.map UInt8.toNat)) = some bytes
  | [] => rfl
  | [a] => by
    have ha := a.toNat_lt
    simp only [List.map_cons, List.map_nil, encodeSextets, decodeSextets]
    rw [byte_ext a (by omega)]
  | [a, b] => by
    have ha := a.toNat_lt
    have hb := b.toNat_lt
    simp only [List.map_cons, List.map_nil, encodeSextets, decodeSextets]
    rw [byte_ext a (by omega), byte_ext b (by omega)]
  | a :: b :: c :: rest => by
    have ha := a.toNat_lt
    have hb := b.toNat_lt
    have hc := c.toNat_lt
    simp only [List.map_cons, encodeSextets, decodeSextets, decodeSextets_encodeSextets rest,
      Option.map_some]
    rw [byte_ext a (by omega), byte_ext b (by omega),
      byte_ext c (by omega)]

theorem bytes_small (bytes : List UInt8) : ∀ byte ∈ bytes.map UInt8.toNat, byte < 256 := by
  intro byte mem
  obtain ⟨b, _, rfl⟩ := List.mem_map.mp mem
  exact b.toNat_lt

theorem mapM_sextet? {sextets : List Nat} (small : ∀ n ∈ sextets, n < 64) :
    (sextets.map fun n => base64UrlAlphabet.getD n 'A').mapM sextet? = some sextets := by
  induction sextets with
  | nil => rfl
  | cons n rest ih =>
    rw [List.forall_mem_cons] at small
    have first := sextet?_alphabet ⟨n, small.1⟩
    simp only at first
    rw [List.map_cons, List.mapM_cons, first, ih small.2]
    rfl

theorem toList_base64UrlEncode (bytes : List UInt8) :
    (base64UrlEncode bytes).toList =
      (encodeSextets (bytes.map UInt8.toNat)).map fun n => base64UrlAlphabet.getD n 'A' := by
  rw [base64UrlEncode, String.toList_ofList]

theorem base64UrlDecode_encode {bytes : List UInt8} (filled : bytes ≠ []) :
    base64UrlDecode (base64UrlEncode bytes) = some bytes := by
  have length := length_encodeSextets (bytes.map UInt8.toNat)
  have positive : 0 < bytes.length := List.length_pos_iff.mpr filled
  rw [base64UrlDecode, if_neg, toList_base64UrlEncode, mapM_sextet?]
  · exact decodeSextets_encodeSextets bytes
  · exact encodeSextets_lt _ (bytes_small bytes)
  · intro empty
    have shown := congrArg (fun text : String => text.toList.length) empty
    simp only [toList_base64UrlEncode, List.length_map, String.toList_empty, List.length_nil] at shown
    rw [List.length_map] at length
    omega

theorem base64UrlEncode_plain (bytes : List UInt8) :
    ∀ c ∈ (base64UrlEncode bytes).toList, ascii c = true ∧ c ≠ '.' := by
  rw [toList_base64UrlEncode]
  intro c mem
  obtain ⟨n, among, rfl⟩ := List.mem_map.mp mem
  exact alphabet_plain ⟨n, encodeSextets_lt _ (bytes_small bytes) n among⟩

theorem utf8ByteSize_base64UrlEncode (bytes : List UInt8) :
    (base64UrlEncode bytes).utf8ByteSize = (4 * bytes.length + 2) / 3 := by
  rw [AdmissionLanguage.utf8ByteSize_of_ascii fun c mem => (base64UrlEncode_plain bytes c mem).1]
  rw [← String.length_toList, toList_base64UrlEncode, List.length_map, length_encodeSextets,
    List.length_map]

/-- Bytes are told apart by what they are written as. -/
theorem base64UrlEncode_injective {left right : List UInt8} (hleft : left ≠ []) (hright : right ≠ [])
    (h : base64UrlEncode left = base64UrlEncode right) : left = right := by
  have back := base64UrlDecode_encode hleft
  rw [h, base64UrlDecode_encode hright] at back
  exact (Option.some.inj back).symm

/-! ### The size of what is written -/

def Within (n : Nat) (text : List Char) : Prop :=
  (∀ c ∈ text, ascii c = true) ∧ text.length ≤ n

theorem Within.mono {m n : Nat} {text : List Char} (h : Within m text) (le : m ≤ n) :
    Within n text :=
  ⟨h.1, Nat.le_trans h.2 le⟩

theorem Within.append {m n : Nat} {left right : List Char} (hleft : Within m left)
    (hright : Within n right) : Within (m + n) (left ++ right) := by
  refine ⟨fun c mem => ?_, ?_⟩
  · rcases List.mem_append.mp mem with mem | mem
    · exact hleft.1 c mem
    · exact hright.1 c mem
  · rw [List.length_append]
    exact Nat.add_le_add hleft.2 hright.2

theorem Within.cons {n : Nat} {c : Char} {text : List Char} (plain : ascii c = true)
    (h : Within n text) : Within (n + 1) (c :: text) :=
  ⟨List.forall_mem_cons.mpr ⟨plain, h.1⟩, Nat.succ_le_succ h.2⟩

theorem within_nil : Within 0 [] := ⟨fun _ h => absurd h List.not_mem_nil, Nat.le_refl _⟩

theorem within_tail {n : Nat} {text : List Char} (h : Within n text) : Within n text.tail :=
  ⟨fun c mem => h.1 c (List.mem_of_mem_tail mem), by rw [List.length_tail]; have := h.2; omega⟩

theorem ascii_of_unescaped {c : Char} (plain : unescaped c = true) : ascii c = true :=
  decide_eq_true (of_decide_eq_true plain).2.1

theorem within_quote {content : List Char} (plain : ∀ c ∈ content, unescaped c = true) :
    Within (content.length + 2) (JsonStrings.quote content) := by
  rw [quote_unescaped plain]
  refine (Within.append ⟨fun c mem => ascii_of_unescaped (plain c mem), Nat.le_refl _⟩
    (within_nil.cons (c := '"') (by decide))).cons (by decide)

variable {format : NumberFormat}

theorem within_integer {n : Int} (safe : n.natAbs ≤ MAX_SAFE_INTEGER) :
    Within 17 (render format (.num n)) := by
  have digits : ∀ m : Nat, m ≤ MAX_SAFE_INTEGER → Within 16 (Nat.toDigits 10 m) := by
    intro m small
    refine ⟨fun c mem => ?_, ?_⟩
    · have digit := Nat.isDigit_of_mem_toDigits (by decide) (by decide) mem
      rw [Char.isDigit, Bool.and_eq_true, decide_eq_true_eq, decide_eq_true_eq] at digit
      exact decide_eq_true (Nat.lt_of_le_of_lt digit.2 (by decide))
    · exact (Nat.length_toDigits_le_iff (by decide) (by decide)).mpr
        (Nat.lt_of_le_of_lt small (by decide))
  rw [render, (format.integer n safe).2]
  cases n with
  | ofNat m =>
    rw [show (toString (Int.ofNat m)).toList = Nat.toDigits 10 m from Nat.toList_repr]
    exact (digits m safe).mono (by decide)
  | negSucc m =>
    rw [show toString (Int.negSucc m) = "-" ++ Nat.repr (m + 1) from rfl, String.toList_append,
      Nat.toList_repr]
    exact (digits (m + 1) safe).cons (by decide)

theorem within_field (key : String) {value : Json} {fields : List (String × Json)} {m n : Nat}
    (plain : key.toList.all unescaped = true) (hvalue : Within m (render format value))
    (hfields : Within n (renderFields format fields)) :
    Within (key.toList.length + m + n + 4) (renderFields format ((key, value) :: fields)) := by
  rw [renderFields]
  have hkey := within_quote (List.all_eq_true.mp plain)
  refine ((hkey.append ((hvalue.append hfields).cons (by decide))).cons (by decide)).mono ?_
  omega

theorem within_texts {texts : List String} {m : Nat}
    (plain : ∀ text ∈ texts, text.toList.length ≤ m ∧ ∀ c ∈ text.toList, unescaped c = true) :
    Within ((m + 3) * texts.length) (renderItems format (texts.map .str)) := by
  induction texts with
  | nil => exact within_nil
  | cons text texts ih =>
    rw [List.forall_mem_cons] at plain
    rw [List.map_cons, renderItems, render]
    refine ((within_quote plain.1.2).append (ih plain.2)).cons (by decide) |>.mono ?_
    rw [List.length_cons, Nat.mul_succ]
    have := plain.1.1
    omega

/-! ### Claims read back -/

/-- What `crypto.randomUUID` answers: 36 hexadecimal digits and hyphens. -/
def Uuid (sid : String) : Prop :=
  sid.toList.length = 36 ∧ ∀ c ∈ sid.toList, (LocalApi.hexDigit c || c == '-') = true

theorem hexDigit_cases {c : Char} (h : LocalApi.hexDigit c = true) :
    asciiAlphanumeric c = true ∧ 48 ≤ c.toNat ∧ c.toNat < 128 := by
  simp only [LocalApi.hexDigit, Bool.or_eq_true, decide_eq_true_eq] at h
  simp only [asciiAlphanumeric, Bool.or_eq_true, decide_eq_true_eq]
  have order : ∀ x y : Char, x ≤ y ↔ x.toNat ≤ y.toNat := fun _ _ => Iff.rfl
  simp only [order, show 'a'.toNat = 97 from rfl, show 'f'.toNat = 102 from rfl,
    show 'A'.toNat = 65 from rfl, show 'F'.toNat = 70 from rfl, show '0'.toNat = 48 from rfl,
    show '9'.toNat = 57 from rfl, show 'z'.toNat = 122 from rfl, show 'Z'.toNat = 90 from rfl] at h ⊢
  omega

theorem unescaped_of_alphanumeric {c : Char} (h : asciiAlphanumeric c = true) :
    unescaped c = true := by
  simp only [asciiAlphanumeric, Bool.or_eq_true, decide_eq_true_eq] at h
  have order : ∀ x y : Char, x ≤ y ↔ x.toNat ≤ y.toNat := fun _ _ => Iff.rfl
  simp only [order, show 'a'.toNat = 97 from rfl, show 'z'.toNat = 122 from rfl,
    show 'A'.toNat = 65 from rfl, show 'Z'.toNat = 90 from rfl, show '0'.toNat = 48 from rfl,
    show '9'.toNat = 57 from rfl] at h
  refine decide_eq_true ⟨by omega, by omega, ?_, ?_⟩
  · rintro rfl
    have : '"'.toNat = 34 := rfl
    omega
  · rintro rfl
    have : '\\'.toNat = 92 := rfl
    omega

theorem Uuid.unescaped {sid : String} (uuid : Uuid sid) :
    ∀ c ∈ sid.toList, JsonStrings.unescaped c = true := by
  intro c mem
  rcases Bool.or_eq_true _ _ ▸ uuid.2 c mem with hex | hyphen
  · exact unescaped_of_alphanumeric (hexDigit_cases hex).1
  · rw [beq_iff_eq] at hyphen
    subst hyphen
    decide

theorem Uuid.safe {sid : String} (uuid : Uuid sid) : safeSessionId sid = true := by
  rw [safeSessionId]
  simp only [uuid.1, Bool.and_eq_true, decide_eq_true_eq, List.all_eq_true]
  refine ⟨by omega, fun c mem => ?_⟩
  rcases Bool.or_eq_true _ _ ▸ uuid.2 c mem with hex | hyphen
  · rw [(hexDigit_cases hex).1, Bool.true_or]
  · rw [hyphen, Bool.or_true]

theorem safeScope_unescaped {scope : String} (safe : safeScope scope = true) :
    ∀ c ∈ scope.toList, unescaped c = true := by
  rw [safeScope] at safe
  intro c mem
  cases chars : scope.toList with
  | nil =>
    rw [chars] at mem
    exact absurd mem List.not_mem_nil
  | cons first rest =>
    rw [chars] at safe mem
    simp only [Bool.and_eq_true, Bool.or_eq_true, beq_iff_eq, List.all_eq_true] at safe
    rcases List.mem_cons.mp mem with rfl | mem
    · rcases safe.1 with plain | rfl
      · exact unescaped_of_alphanumeric plain
      · decide
    · rcases safe.2 c mem with plain | mark
      · exact unescaped_of_alphanumeric plain
      · exact List.all_eq_true.mp (by decide : "._:/*-".toList.all unescaped = true) c
          (List.contains_iff_mem.mp mark)

/-- Scopes without errors are safe and short. -/
theorem scopeErrors_nil {scopes seen : List String}
    (accepted : scopeErrors seen (scopes.map .str) = []) :
    ∀ scope ∈ scopes, safeScope scope = true ∧ scope.utf8ByteSize ≤ MAX_SCOPE_BYTES := by
  induction scopes generalizing seen with
  | nil => exact fun _ h => absurd h List.not_mem_nil
  | cons scope scopes ih =>
    rw [List.map_cons, scopeErrors] at accepted
    split at accepted
    · cases accepted
    · rename_i fits
      rw [not_or, not_or, Bool.not_eq_false, Nat.not_lt] at fits
      rw [List.append_eq_nil_iff] at accepted
      exact List.forall_mem_cons.mpr ⟨⟨fits.2.2, fits.2.1⟩, ih accepted.2⟩

/-- What a grant without errors may be taken to be. -/
theorem grantErrors_nil {grant : CapabilityGrant} (accepted : grantErrors grant = []) :
    grant.scopes.length ≤ MAX_CAPABILITY_SESSION_SCOPES ∧
      ∀ scope ∈ grant.scopes, safeScope scope = true ∧ scope.utf8ByteSize ≤ MAX_SCOPE_BYTES := by
  rw [grantErrors, validateCapabilityGrant] at accepted
  simp only [List.append_eq_nil_iff] at accepted
  obtain ⟨_, few, scopes⟩ := accepted
  refine ⟨?_, scopeErrors_nil scopes⟩
  rw [List.length_map] at few
  split at few
  · cases few
  · omega

theorem isDepth_own (depth : CapabilityDepth) : isDepth (some (.num (depth : Int))) = some depth := by
  have found : ∀ d : Fin 7, (List.finRange 7).find?
      (fun x : Fin 7 => decide ((x.val : Int) = (d.val : Int))) = some d := by decide
  exact found depth

theorem isAuthority_own (authority : CapabilityAuthority) :
    isAuthority (some (.num (authority : Int))) = some authority := by
  have found : ∀ d : Fin 5, (List.finRange 5).find?
      (fun x : Fin 5 => decide ((x.val : Int) = (d.val : Int))) = some d := by decide
  exact found authority

theorem safeInteger?_own {n : Int} (safe : n.natAbs ≤ MAX_SAFE_INTEGER) :
    Json.safeInteger? (some (.num n)) = some n := by
  exact Option.filter_eq_some_iff.mpr ⟨rfl, decide_eq_true safe⟩

theorem scopeTexts_own (scopes : List String) : scopeTexts (scopes.map .str) = scopes := by
  induction scopes with
  | nil => rfl
  | cons scope scopes ih =>
    rw [List.map_cons, scopeTexts, List.filterMap_cons]
    exact congrArg (scope :: ·) ih

/-! ### The token -/

/-- The laws of the platform's JSON that sessions rest on. -/
structure WritesJson (web : WebRuntime) (format : NumberFormat) : Prop where
  stringify : ∀ value, JsonText.Normal format value →
    web.stringify value = String.ofList (render format value)
  parseBytes : ∀ text value, JsonText.read format text = some value → JsonText.Normal format value →
    web.parseBytes (encode (String.ofList text)) = some value

section Claims

variable {web : WebRuntime} {claims : CapabilitySessionClaims}

/-- Claims the issuer can write. -/
structure Issuable (claims : CapabilitySessionClaims) : Prop where
  uuid : Uuid claims.sid
  accepted : grantErrors claims.grant = []
  iat : claims.iat.natAbs ≤ MAX_SAFE_INTEGER
  exp : claims.exp.natAbs ≤ MAX_SAFE_INTEGER

theorem level_safe {n : Nat} (level : Fin n) (small : n ≤ 7) :
    (level.val : Int).natAbs ≤ MAX_SAFE_INTEGER := by
  have := level.isLt
  rw [Int.natAbs_natCast, MAX_SAFE_INTEGER]
  omega

theorem normalItems_texts (texts : List String) : NormalItems format (texts.map .str) := by
  induction texts with
  | nil => trivial
  | cons text texts ih => exact ⟨trivial, ih⟩

theorem Issuable.normal (h : Issuable claims) :
    JsonText.Normal format (claimsJson claims) := by
  have one : JsonText.Normal format (.num 1) := (format.integer 1 (by decide)).1
  have order : ["v", "sid", "iat", "exp", "depth", "authority", "scopes"].Pairwise Precedes := by
    decide
  exact ⟨order, one, trivial, (format.integer _ h.iat).1, (format.integer _ h.exp).1,
    (format.integer _ (level_safe claims.depth (by decide))).1,
    (format.integer _ (level_safe claims.authority (by decide))).1,
    normalItems_texts claims.scopes, trivial⟩

theorem Issuable.within (h : Issuable claims) :
    Within 8600 (render format (claimsJson claims)) := by
  obtain ⟨few, scopes⟩ := grantErrors_nil h.accepted
  have texts : Within (131 * claims.scopes.length) (renderItems format (claims.scopes.map .str)) := by
    refine within_texts fun scope mem => ⟨?_, safeScope_unescaped (scopes scope mem).1⟩
    have short := (scopes scope mem).2
    rw [AdmissionLanguage.utf8ByteSize_of_ascii fun c inside =>
      ascii_of_unescaped (safeScope_unescaped (scopes scope mem).1 c inside)] at short
    exact short
  have array : Within (131 * 64 + 2) (render format (.arr (claims.scopes.map .str))) := by
    rw [render]
    refine ((within_tail texts).append (within_nil.cons (c := ']') (by decide))).cons (by decide)
      |>.mono ?_
    have : claims.scopes.length ≤ 64 := few
    omega
  have sid : Within 38 (render format (.str claims.sid)) := by
    rw [render]
    exact (within_quote h.uuid.unescaped).mono (by rw [h.uuid.1])
  have fields := within_field "v" (by decide) (within_integer (n := 1) (by decide))
    (within_field "sid" (by decide) sid
      (within_field "iat" (by decide) (within_integer h.iat)
        (within_field "exp" (by decide) (within_integer h.exp)
          (within_field "depth" (by decide)
            (within_integer (level_safe claims.depth (by decide)))
            (within_field "authority" (by decide)
              (within_integer (level_safe claims.authority (by decide)))
              (within_field "scopes" (by decide) array
                (show Within 0 (renderFields format []) from within_nil)))))))
  rw [claimsJson, render]
  exact ((within_tail fields).append (within_nil.cons (c := '\x7d') (by decide))).cons (by decide)
    |>.mono (by decide)

theorem Issuable.parsed (h : Issuable claims) (json : WritesJson web format) :
    parseClaims web (encode (web.stringify (claimsJson claims))) = some claims := by
  have back := json.parseBytes _ _ (@read_render format _ h.normal) h.normal
  rw [← json.stringify _ h.normal] at back
  have keys : exactKeys (claimsJson claims)
      ["v", "sid", "iat", "exp", "depth", "authority", "scopes"] = true := rfl
  have version : Json.integer? ((claimsJson claims).field "v") = some 1 := rfl
  have depth : (claimsJson claims).field "depth" =
      some (.num (claims.depth : Int)) := rfl
  have authority : (claimsJson claims).field "authority" =
      some (.num (claims.authority : Int)) := rfl
  have iat : (claimsJson claims).field "iat" = some (.num claims.iat) := rfl
  have exp : (claimsJson claims).field "exp" = some (.num claims.exp) := rfl
  have sid : (claimsJson claims).field "sid" = some (.str claims.sid) := rfl
  have scopes : (claimsJson claims).field "scopes" =
      some (.arr (claims.scopes.map .str)) := rfl
  have accepted := h.accepted
  rw [grantErrors, CapabilitySessionClaims.grant] at accepted
  rw [parseClaims, back]
  simp only [keys, version, Bool.not_true, ne_eq, not_true_eq_false,
    decide_false, Bool.false_eq_true, if_false, sid, iat, exp, depth, authority, scopes,
    safeInteger?_own h.iat, safeInteger?_own h.exp, isDepth_own, isAuthority_own, h.uuid.safe,
    accepted, List.isEmpty_nil, Bool.or_false, scopeTexts_own]

end Claims

/-- A number that is read as an integer is that integer. -/
theorem integer?_eq {value : Option Json} {n : Int} (h : Json.integer? value = some n) :
    value = some (.num n) := by
  unfold Json.integer? at h
  split at h
  · rename_i q
    split at h
    · rename_i whole
      cases h
      rw [Rat.coe_int_num_of_den_eq_one whole]
    · cases h
  · cases h

theorem level_eq {n : Nat} {value : Option Json} {level : Fin n}
    (h : ((Json.integer? value).bind fun m =>
      (List.finRange n).find? fun d => decide ((d.val : Int) = m)) = some level) :
    value = some (.num (level.val : Int)) := by
  obtain ⟨m, read, found⟩ := Option.bind_eq_some_iff.mp h
  have tested := List.find?_some found
  have same : (level.val : Int) = m := of_decide_eq_true tested
  rw [same]
  exact integer?_eq read

theorem scopeTexts_map {values : List Json} {seen : List String}
    (accepted : scopeErrors seen values = []) : values = (scopeTexts values).map .str := by
  induction values generalizing seen with
  | nil => rfl
  | cons value values ih =>
    cases value with
    | str scope =>
      rw [scopeErrors] at accepted
      split at accepted
      · cases accepted
      · rw [List.append_eq_nil_iff] at accepted
        exact congrArg (Json.str scope :: ·) (ih accepted.2)
    | _ =>
      rw [scopeErrors] at accepted
      · cases accepted
      · exact fun _ h => by cases h

/-- An object with these claims and nothing else. -/
def Encodes (value : Json) (claims : CapabilitySessionClaims) : Prop :=
  value.keys.map List.length = some 7 ∧
    ∀ key ∈ ["v", "sid", "iat", "exp", "depth", "authority", "scopes"],
      value.field key = (claimsJson claims).field key

theorem parseClaims_encodes {web : WebRuntime} {bytes : List UInt8}
    {claims : CapabilitySessionClaims} (h : parseClaims web bytes = some claims) :
    ∃ value, web.parseBytes bytes = some value ∧ Encodes value claims := by
  rw [parseClaims] at h
  split at h
  · cases h
  rename_i value parsed
  refine ⟨value, parsed, ?_⟩
  split at h
  · cases h
  rename_i checked
  simp only [Bool.or_eq_true, Bool.not_eq_true', decide_eq_true_eq, not_or, not_not,
    Bool.not_eq_false] at checked
  split at h
  · rename_i sid iat exp depth authority values hsid hiat hexp hdepth hauthority hscopes
    split at h
    · cases h
    rename_i accepted
    cases h
    simp only [Bool.or_eq_true, Bool.not_eq_true', not_or, Bool.not_eq_false,
      List.isEmpty_iff, validateCapabilityGrant, hscopes, List.append_eq_nil_iff] at accepted
    constructor
    · have keys := checked.1
      rw [exactKeys] at keys
      cases names : value.keys with
      | none =>
        rw [names] at keys
        cases keys
      | some names' =>
        rw [names, Option.any_some, Bool.and_eq_true, decide_eq_true_eq] at keys
        rw [Option.map_some, keys.1]
        rfl
    · simp only [List.forall_mem_cons, List.not_mem_nil, false_implies, implies_true, and_true]
      refine ⟨integer?_eq checked.2, hsid, ?_, ?_, level_eq hdepth, level_eq hauthority, ?_⟩
      · exact integer?_eq (Option.filter_eq_some_iff.mp hiat).1
      · exact integer?_eq (Option.filter_eq_some_iff.mp hexp).1
      · rw [hscopes]
        exact congrArg (fun texts => some (Json.arr texts)) (scopeTexts_map accepted.2.2.2)
  · cases h

/-! ### What the issuer returns -/

theorem tokenParts_join {a b c : String} (ha : '.' ∉ a.toList) (hb : '.' ∉ b.toList)
    (hc : '.' ∉ c.toList) : tokenParts (a ++ "." ++ b ++ "." ++ c) = [a, b, c] := by
  rw [tokenParts]
  simp only [String.toList_append, List.append_assoc, show ".".toList = ['.'] from rfl,
    List.cons_append, List.nil_append]
  rw [List.splitOn_append_cons_self_of_not_mem ha, List.splitOn_append_cons_self_of_not_mem hb,
    List.splitOn_eq_singleton hc]
  simp only [List.map_cons, List.map_nil, String.ofList_toList]

theorem join_tokenParts {token a b c : String} (h : tokenParts token = [a, b, c]) :
    token = a ++ "." ++ b ++ "." ++ c := by
  apply String.toList_inj.mp
  have back := @List.intercalate_splitOn Char token.toList _ _ '.'
  have pieces : token.toList.splitOn '.' = [a.toList, b.toList, c.toList] := by
    have mapped := congrArg (List.map String.toList) h
    simp only [tokenParts, List.map_map, List.map_cons, List.map_nil] at mapped
    rw [← mapped]
    exact (List.map_id' _).symm.trans (List.map_congr_left fun chars _ => String.toList_ofList.symm)
  rw [pieces] at back
  rw [← back]
  simp [List.intercalate]

theorem base64UrlEncode_no_dot (bytes : List UInt8) : '.' ∉ (base64UrlEncode bytes).toList :=
  fun mem => (base64UrlEncode_plain bytes '.' mem).2 rfl

/-- What the verifier asks of a token besides its time. -/
structure WellFormed (web : WebRuntime) (secret token : String) (claims : CapabilitySessionClaims) :
    Prop where
  given : secret ≠ ""
  size : token.utf8ByteSize ≤ MAX_TOKEN_BYTES
  parts : ∃ payload signature bytes,
    tokenParts token = [SESSION_TOKEN_PREFIX, payload, signature] ∧
    base64UrlDecode signature = some (signPayload web secret payload) ∧
    base64UrlDecode payload = some bytes ∧ parseClaims web bytes = some claims

/-- A lifetime the verifier takes. -/
def Lifetime (claims : CapabilitySessionClaims) : Prop :=
  claims.iat < claims.exp ∧ claims.exp - claims.iat ≤ MAX_CAPABILITY_SESSION_TTL_SECONDS

theorem verify_wellFormed {web : WebRuntime} {secret token : String}
    {claims : CapabilitySessionClaims} (h : WellFormed web secret token claims)
    (lifetime : Lifetime claims) (nowMs : Int) :
    verifyCapabilitySession web token secret nowMs =
      if claims.iat ≤ nowMs / 1000 + 60 ∧ nowMs / 1000 < claims.exp then some claims.context
      else none := by
  obtain ⟨payload, signature, bytes, parts, signed, decoded, parsed⟩ := h.parts
  have small := h.size
  have lasts := lifetime.1
  have short := lifetime.2
  rw [verifyCapabilitySession, if_neg (by rw [not_or]; exact ⟨h.given, by omega⟩), parts]
  simp only [ne_eq, not_true_eq_false, if_false, signed, decoded, parsed, signPayload]
  by_cases live : claims.iat ≤ nowMs / 1000 + 60 ∧ nowMs / 1000 < claims.exp
  · rw [if_pos live]
    exact if_neg (by omega)
  · rw [if_neg live]
    exact if_pos (by omega)

section Issued

variable {web : WebRuntime} {sid secret : String} {grant : CapabilityGrant} {ttlSeconds : ℚ}
  {nowMs : Int} {issue : CapabilitySessionIssue}

/-- What an issue took and what it made. -/
theorem issueCapabilitySession_ok
    (h : issueCapabilitySession web sid secret grant ttlSeconds nowMs = .ok issue) :
    secret ≠ "" ∧ grantErrors grant = [] ∧ MIN_CAPABILITY_SESSION_TTL_SECONDS ≤ ttlSeconds.num ∧
      ttlSeconds.num ≤ MAX_CAPABILITY_SESSION_TTL_SECONDS ∧ ttlSeconds = ttlSeconds.num ∧
      issue.claims = ⟨sid, nowMs / 1000, nowMs / 1000 + ttlSeconds.num, grant.depth,
        grant.authority, grant.scopes⟩ ∧
      ∃ payload, payload = base64UrlEncode (encode (web.stringify (claimsJson issue.claims))) ∧
        issue.token = SESSION_TOKEN_PREFIX ++ "." ++ payload ++ "." ++
          base64UrlEncode (signPayload web secret payload) := by
  rw [issueCapabilitySession] at h
  split at h
  · cases h
  rename_i given
  split at h
  · cases h
  rename_i accepted
  split at h
  · cases h
  rename_i bounded
  rw [not_or, not_or, not_not] at bounded
  cases h
  exact ⟨given, not_not.mp accepted, by omega, by omega,
    (Rat.coe_int_num_of_den_eq_one bounded.1).symm, rfl, _, rfl, rfl⟩

theorem issued_wellFormed {format : NumberFormat} (json : WritesJson web format)
    (tags : ∀ key message, (web.hmac key message).length = 32) (uuid : Uuid sid)
    (time : nowMs.natAbs ≤ MAX_TIME_VALUE)
    (h : issueCapabilitySession web sid secret grant ttlSeconds nowMs = .ok issue) :
    WellFormed web secret issue.token issue.claims ∧ Lifetime issue.claims := by
  obtain ⟨given, accepted, atLeast, atMost, _, claims, payload, written, token⟩ :=
    issueCapabilitySession_ok h
  rw [MIN_CAPABILITY_SESSION_TTL_SECONDS] at atLeast
  rw [MAX_CAPABILITY_SESSION_TTL_SECONDS] at atMost
  rw [MAX_TIME_VALUE] at time
  have issuable : Issuable issue.claims := by
    rw [claims]
    refine ⟨uuid, accepted, ?_, ?_⟩
    · simp only [MAX_SAFE_INTEGER]
      omega
    · simp only [MAX_SAFE_INTEGER]
      omega
  have bytes := (@Issuable.within format _ issuable).2
  have plain := (@Issuable.within format _ issuable).1
  have length : (encode (web.stringify (claimsJson issue.claims))).length ≤ 8600 := by
    rw [json.stringify _ issuable.normal, encode_ascii plain, List.length_map]
    exact bytes
  have filled : encode (web.stringify (claimsJson issue.claims)) ≠ [] := by
    rw [json.stringify _ issuable.normal, encode_ascii plain, claimsJson, render]
    exact List.cons_ne_nil _ _
  have tag := tags secret (SIGNING_DOMAIN ++ "." ++ payload)
  have signed : signPayload web secret payload ≠ [] := by
    rw [signPayload]
    exact fun empty => by rw [empty] at tag; cases tag
  refine ⟨⟨given, ?_, payload, _, _, ?_, base64UrlDecode_encode signed, ?_,
    issuable.parsed json⟩, ?_⟩
  · rw [token]
    simp only [String.utf8ByteSize_append]
    rw [utf8ByteSize_base64UrlEncode, written, utf8ByteSize_base64UrlEncode, signPayload, ← written,
      tag, show SESSION_TOKEN_PREFIX.utf8ByteSize = 4 from rfl,
      show ".".utf8ByteSize = 1 from rfl, MAX_TOKEN_BYTES]
    omega
  · have payload_no_dot : '.' ∉ payload.toList := by
      rw [written]
      exact base64UrlEncode_no_dot _
    rw [token, tokenParts_join (by decide) payload_no_dot (base64UrlEncode_no_dot _)]
  · rw [written]
    exact base64UrlDecode_encode filled
  · rw [claims]
    simp only [Lifetime, MAX_CAPABILITY_SESSION_TTL_SECONDS]
    omega

end Issued

/-! ### Secrets kept apart -/

/-- The tags the deployment computes: none is computed twice for different keys or
texts, and no secret is derived from a tag under itself. -/
structure Unforgeable (hmac : String → String → List UInt8) (asked : String → String → Prop) :
    Prop where
  distinct : ∀ key text key' text', asked key text → asked key' text' →
    hmac key text = hmac key' text' → key = key' ∧ text = text'
  unknown : ∀ key text, asked key text → key ≠ "oauth1." ++ base64UrlEncode (hmac key text)

def derivationText (resource : String) : String := OAUTH_RESOURCE_SIGNING_DOMAIN ++ "." ++ resource

def signedText (payload : String) : String := SIGNING_DOMAIN ++ "." ++ payload

/-- The token's signature is the tag of its payload under the secret. -/
def SignedUnder (web : WebRuntime) (secret payload token : String) : Prop :=
  ∃ signature, tokenParts token = [SESSION_TOKEN_PREFIX, payload, signature] ∧
    base64UrlDecode signature = some (web.hmac secret (signedText payload))

/-- An accepted token is signed under the secret, and gives what its payload encodes. -/
theorem verify_accepted {web : WebRuntime} {token secret : String} {nowMs : Int}
    {auth : AuthorizationContext}
    (h : verifyCapabilitySession web token secret nowMs = some auth) :
    ∃ payload bytes value claims, SignedUnder web secret payload token ∧
      base64UrlDecode payload = some bytes ∧ web.parseBytes bytes = some value ∧
      Encodes value claims ∧ auth = claims.context := by
  rw [verifyCapabilitySession] at h
  split at h
  · cases h
  split at h
  · rename_i version payload signature parts
    split at h
    · cases h
    rename_i stem
    split at h
    · rename_i tag bytes hsignature hpayload
      split at h
      · cases h
      rename_i tagged
      split at h
      · cases h
      rename_i claims hclaims
      dsimp only at h
      split at h
      · cases h
      cases h
      obtain ⟨value, parsed, encodes⟩ := parseClaims_encodes hclaims
      rw [not_not] at stem tagged
      refine ⟨payload, bytes, value, claims, ⟨signature, ?_, ?_⟩, hpayload, parsed, encodes, rfl⟩
      · rw [parts, stem]
      · rw [hsignature, signedText, tagged]
    · cases h
  · cases h

section Separation

variable {web : WebRuntime} {asked : String → String → Prop} {root payload : String}

/-- A token signed under one secret is refused under another. -/
theorem refused_under {secret other token : String} (unforgeable : Unforgeable web.hmac asked)
    (asks : asked secret (signedText payload)) (asks' : asked other (signedText payload))
    (apart : secret ≠ other) (signed : SignedUnder web secret payload token) (nowMs : Int) :
    verifyCapabilitySession web token other nowMs = none := by
  cases outcome : verifyCapabilitySession web token other nowMs with
  | none => rfl
  | some auth =>
    obtain ⟨payload', _, _, _, ⟨signature', parts', tag'⟩, _⟩ := verify_accepted outcome
    obtain ⟨signature, parts, tag⟩ := signed
    rw [parts] at parts'
    simp only [List.cons.injEq, and_true, true_and] at parts'
    obtain ⟨rfl, rfl⟩ := parts'
    rw [tag] at tag'
    exact absurd (unforgeable.distinct _ _ _ _ asks asks' (Option.some.inj tag')).1 apart

theorem derived_ne_root {resource : String} (unforgeable : Unforgeable web.hmac asked)
    (asks : asked root (derivationText resource)) :
    deriveOAuthResourceSessionSecret web root resource ≠ root :=
  fun same => unforgeable.unknown _ _ asks same.symm

theorem derived_ne {resource other : String} (unforgeable : Unforgeable web.hmac asked)
    (tags : ∀ key text, (web.hmac key text).length = 32)
    (asks : asked root (derivationText resource)) (asks' : asked root (derivationText other))
    (apart : resource ≠ other) :
    deriveOAuthResourceSessionSecret web root resource ≠
      deriveOAuthResourceSessionSecret web root other := by
  intro same
  have filled : ∀ text, web.hmac root text ≠ [] := fun text empty => by
    have length := tags root text
    rw [empty] at length
    cases length
  have tail := String.append_right_inj _ |>.mp same
  have tag := base64UrlEncode_injective (filled _) (filled _) tail
  have text := (unforgeable.distinct _ _ _ _ asks asks' tag).2
  exact apart (String.append_right_inj _ |>.mp text)

end Separation

/-- What is issued is read back exactly while it is valid; what is accepted is
signed; and tokens of one OAuth resource are tokens of no other secret. -/
theorem capability_session_round_trip {web : WebRuntime} {format : NumberFormat}
    (json : WritesJson web format) (tags : ∀ key text, (web.hmac key text).length = 32) :
    (∀ sid secret grant ttlSeconds nowMs issue, Uuid sid → nowMs.natAbs ≤ MAX_TIME_VALUE →
      issueCapabilitySession web sid secret grant ttlSeconds nowMs = .ok issue →
      WellFormed web secret issue.token issue.claims ∧ issue.claims.grant = grant ∧
      issue.claims.sid = sid ∧ issue.claims.iat = nowMs / 1000 ∧
      (issue.claims.exp : ℚ) = issue.claims.iat + ttlSeconds ∧
      ∀ t, verifyCapabilitySession web issue.token secret t =
        if issue.claims.iat ≤ t / 1000 + 60 ∧ t / 1000 < issue.claims.exp then
          some ⟨.session, grant, some sid, some issue.claims.exp⟩
        else none) ∧
    (∀ token secret t auth, verifyCapabilitySession web token secret t = some auth →
      ∃ payload signature bytes value claims,
        token = SESSION_TOKEN_PREFIX ++ "." ++ payload ++ "." ++ signature ∧
        base64UrlDecode signature = some (web.hmac secret (signedText payload)) ∧
        base64UrlDecode payload = some bytes ∧ web.parseBytes bytes = some value ∧
        Encodes value claims ∧ auth = claims.context) ∧
    (∀ asked root payload resource token, Unforgeable web.hmac asked →
      asked root (derivationText resource) →
      asked (deriveOAuthResourceSessionSecret web root resource) (signedText payload) →
      SignedUnder web (deriveOAuthResourceSessionSecret web root resource) payload token →
      (asked root (signedText payload) → ∀ t, verifyCapabilitySession web token root t = none) ∧
      ∀ other, other ≠ resource → asked root (derivationText other) →
        asked (deriveOAuthResourceSessionSecret web root other) (signedText payload) →
        ∀ t, verifyCapabilitySession web token
          (deriveOAuthResourceSessionSecret web root other) t = none) := by
  refine ⟨?_, ?_, ?_⟩
  · intro sid secret grant ttlSeconds nowMs issue uuid time issued
    obtain ⟨wellFormed, lifetime⟩ := issued_wellFormed json tags uuid time issued
    obtain ⟨_, _, _, _, whole, claims, _⟩ := issueCapabilitySession_ok issued
    refine ⟨wellFormed, by rw [claims]; rfl, by rw [claims], by rw [claims], ?_, fun t => ?_⟩
    · rw [claims, Int.cast_add, ← whole]
    · rw [verify_wellFormed wellFormed lifetime t, CapabilitySessionClaims.context, claims]
      rfl
  · intro token secret t auth accepted
    obtain ⟨payload, bytes, value, claims, ⟨signature, parts, tag⟩, decoded, parsed, encodes, auth⟩ :=
      verify_accepted accepted
    exact ⟨payload, signature, bytes, value, claims, join_tokenParts parts, tag, decoded, parsed,
      encodes, auth⟩
  · intro asked root payload resource token unforgeable asks signs signed
    refine ⟨fun signsRoot t => ?_, fun other apart asks' signs' t => ?_⟩
    · exact refused_under unforgeable signs signsRoot (derived_ne_root unforgeable asks) signed t
    · exact refused_under unforgeable signs signs'
        (derived_ne unforgeable tags asks asks' apart.symm) signed t

/-! ### A session under each secret -/

def sampleSid : String := "0e3f2a10-5b7c-4d21-9a86-3c1f8e7d6b54"

theorem sampleSid_uuid : Uuid sampleSid :=
  ⟨by decide +kernel, List.all_eq_true.mp (by decide +kernel)⟩

def sampleGrant : CapabilityGrant :=
  ⟨CapabilityDepth.REASON, CapabilityAuthority.OBSERVE, ["capability.read"]⟩

/-- The payload of the sample grant, issued for 900 seconds at 1760000000. -/
def samplePayload : String :=
  "eyJ2IjoxLCJzaWQiOiIwZTNmMmExMC01YjdjLTRkMjEtOWE4Ni0zYzFmOGU3ZDZiNTQiLCJpYXQiOjE3" ++
  "NjAwMDAwMDAsImV4cCI6MTc2MDAwMDkwMCwiZGVwdGgiOjIsImF1dGhvcml0eSI6MCwic2NvcGVzIjpb" ++
  "ImNhcGFiaWxpdHkucmVhZCJdfQ"

/-- The five tags of the sample: two resources' secrets, and the payload under each
secret. -/
def sampleHmac (key text : String) : List UInt8 :=
  if key = "root-token" ∧ text = signedText samplePayload then
    [105, 181, 144, 226, 40, 183, 145, 156, 27, 133, 87, 96, 155, 253, 244, 182, 174,
     194, 21, 65, 159, 0, 171, 82, 183, 252, 41, 207, 212, 133, 192, 123]
  else if key = "root-token" ∧ text = derivationText "https://a.example/mcp" then
    [192, 35, 90, 38, 101, 42, 208, 92, 126, 91, 78, 118, 165, 142, 101, 252, 77, 123,
     59, 130, 25, 248, 56, 149, 180, 164, 193, 125, 36, 208, 47, 127]
  else if key = "root-token" ∧ text = derivationText "https://b.example/mcp" then
    [59, 119, 81, 209, 156, 61, 132, 49, 49, 204, 63, 225, 19, 58, 255, 77, 144, 222,
     82, 220, 245, 229, 254, 109, 165, 27, 205, 237, 210, 232, 108, 166]
  else if key = "oauth1.wCNaJmUq0Fx-W052pY5l_E17O4IZ-DiVtKTBfSTQL38" ∧
      text = signedText samplePayload then
    [163, 182, 242, 173, 116, 167, 171, 89, 51, 87, 204, 239, 87, 134, 243, 127, 13,
     149, 34, 24, 123, 108, 162, 89, 146, 1, 34, 129, 64, 38, 217, 135]
  else if key = "oauth1.O3dR0Zw9hDExzD_hEzr_TZDeUtz15f5tpRvN7dLobKY" ∧
      text = signedText samplePayload then
    [168, 226, 205, 117, 84, 10, 56, 115, 104, 71, 127, 21, 29, 191, 65, 230, 22, 45,
     178, 180, 27, 240, 212, 164, 64, 254, 7, 241, 59, 41, 38, 133]
  else List.replicate 32 0

/-- A platform of whole numbers with the sample's tags. -/
def sampleWeb : WebRuntime where
  parse text := JsonText.read integers text.toList
  stringify value := String.ofList (render integers value)
  rowid _ := none
  number _ := none
  sha256Hex text := text
  hmac := sampleHmac
  parseBytes bytes :=
    (String.fromUTF8? ⟨bytes.toArray⟩).bind fun text => JsonText.read integers text.toList

theorem sampleWeb_writesJson : WritesJson sampleWeb integers where
  stringify _ _ := rfl
  parseBytes text value h _ := by
    change (String.fromUTF8? ⟨(encode (String.ofList text)).toArray⟩).bind
      (fun text => JsonText.read integers text.toList) = some value
    rw [RequestRendering.fromUTF8?_encode, Option.bind_some, String.toList_ofList, h]

theorem sampleWeb_tags (key text : String) : (sampleWeb.hmac key text).length = 32 := by
  change (sampleHmac key text).length = 32
  unfold sampleHmac
  split
  · rfl
  split
  · rfl
  split
  · rfl
  split
  · rfl
  split
  · rfl
  · rfl

def sampleResource : String := "https://a.example/mcp"

def otherResource : String := "https://b.example/mcp"

def sampleSecret : String := "oauth1.wCNaJmUq0Fx-W052pY5l_E17O4IZ-DiVtKTBfSTQL38"

def otherSecret : String := "oauth1.O3dR0Zw9hDExzD_hEzr_TZDeUtz15f5tpRvN7dLobKY"

theorem sampleSecret_derived :
    deriveOAuthResourceSessionSecret sampleWeb "root-token" sampleResource = sampleSecret := by
  decide +kernel

theorem otherSecret_derived :
    deriveOAuthResourceSessionSecret sampleWeb "root-token" otherResource = otherSecret := by
  decide +kernel

/-- What the sample deployment computes. -/
def sampleQueries : List (String × String) :=
  [("root-token", signedText samplePayload), ("root-token", derivationText sampleResource),
    ("root-token", derivationText otherResource), (sampleSecret, signedText samplePayload),
    (otherSecret, signedText samplePayload)]

theorem sampleWeb_unforgeable :
    Unforgeable sampleWeb.hmac fun key text => (key, text) ∈ sampleQueries where
  distinct key text key' text' asked asked' same := by
    have apart : (sampleQueries.map fun query => sampleHmac query.1 query.2).Nodup := by
      decide +kernel
    exact Prod.mk.inj (List.inj_on_of_nodup_map apart asked asked' same)
  unknown key text asked := by
    have table : ∀ query ∈ sampleQueries,
        query.1 ≠ "oauth1." ++ base64UrlEncode (sampleHmac query.1 query.2) := by
      decide +kernel
    exact table _ asked

def sampleSignature : String := base64UrlEncode (signPayload sampleWeb sampleSecret samplePayload)

/-- A token of the first resource. -/
def sampleToken : String :=
  SESSION_TOKEN_PREFIX ++ "." ++ samplePayload ++ "." ++ sampleSignature

theorem sampleToken_signed : SignedUnder sampleWeb sampleSecret samplePayload sampleToken :=
  ⟨sampleSignature, tokenParts_join (by decide) (by decide +kernel) (base64UrlEncode_no_dot _),
    base64UrlDecode_encode (by decide +kernel)⟩

theorem sample_round_trip :
    (∃ issue, issueCapabilitySession sampleWeb sampleSid "root-token" sampleGrant 900
        1760000000123 = .ok issue ∧
      verifyCapabilitySession sampleWeb issue.token "root-token" 1760000899999 =
        some ⟨.session, sampleGrant, some sampleSid, some 1760000900⟩ ∧
      verifyCapabilitySession sampleWeb issue.token "root-token" 1760000900000 = none) ∧
    verifyCapabilitySession sampleWeb sampleToken "root-token" 1760000000123 = none ∧
    verifyCapabilitySession sampleWeb sampleToken otherSecret 1760000000123 = none := by
  obtain ⟨issued, _, apart⟩ :=
    capability_session_round_trip sampleWeb_writesJson sampleWeb_tags
  obtain ⟨issue, made⟩ : ∃ issue, issueCapabilitySession sampleWeb sampleSid "root-token"
      sampleGrant 900 1760000000123 = .ok issue := ⟨_, rfl⟩
  obtain ⟨_, _, _, iat, exp, verified⟩ := issued _ _ _ _ _ _ sampleSid_uuid (by decide) made
  have expires : issue.claims.exp = 1760000900 := by
    rw [iat] at exp
    exact Rat.intCast_inj.mp (exp.trans (by decide +kernel))
  have asked := apart _ "root-token" samplePayload sampleResource sampleToken
    sampleWeb_unforgeable
  rw [sampleSecret_derived] at asked
  obtain ⟨notRoot, notOther⟩ :=
    asked (by simp [sampleQueries]) (by simp [sampleQueries]) sampleToken_signed
  have refused := notOther otherResource (by decide) (by simp [sampleQueries])
  rw [otherSecret_derived] at refused
  refine ⟨⟨issue, made, ?_, ?_⟩, notRoot (by simp [sampleQueries]) _,
    refused (by simp [sampleQueries]) _⟩
  · rw [verified, iat, expires]
    exact if_pos (by decide)
  · rw [verified, iat, expires]
    exact if_neg (by decide)

end CapabilitySessions
