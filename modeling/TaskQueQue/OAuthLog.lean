import TaskQueQue.OAuthFlow

/-!
# What the log of the flow says

The log alone tells where each authorization request stands and what each code
stands for. Every entry of a log is justified by the entries before it; from that
follow, for the whole log, which approval a code was issued for and how many codes
and tokens there are.
-/

namespace OAuthLog

open OAuthRequests AuthorizationCodes OAuthTokens OAuthFlow
open PendingConsents (OAuthConsentDecision PendingOAuthConsentStatus)
open CapabilityAuth (isRootAuthorization)

/-! ### Requests -/

inductive Standing
  | absent
  | waiting (request : ValidatedOAuthAuthorizationRequest) (expiresAtMs : Nat)
  | decided (decision : OAuthConsentDecision) (request : ValidatedOAuthAuthorizationRequest)
      (expiresAtMs : Nat)
  | consumed (decision : OAuthConsentDecision) (request : ValidatedOAuthAuthorizationRequest)
      (expiresAtMs : Nat)

namespace Standing

/-- Once a reading has reached its expiry, a request that is held is gone. -/
def atTime (now : Nat) : Standing → Standing
  | .waiting request expires => if expires ≤ now then .absent else .waiting request expires
  | .decided decision request expires =>
    if expires ≤ now then .absent else .decided decision request expires
  | standing => standing

def decide (decision : OAuthConsentDecision) : Standing → Standing
  | .waiting request expires => .decided decision request expires
  | _ => .absent

def consume : Standing → Standing
  | .decided decision request expires => .consumed decision request expires
  | _ => .absent

/-- What the store still holds of it. -/
def live : Standing →
    Option (PendingOAuthConsentStatus × ValidatedOAuthAuthorizationRequest × Nat)
  | .waiting request expires => some (.pending, request, expires)
  | .decided decision request expires => some (.decided decision, request, expires)
  | _ => none

/-- An approval that no code has been issued for yet. -/
def credit : Standing → Nat
  | .decided .approved _ _ | .consumed .approved _ _ => 1
  | _ => 0

end Standing

def standing (id : String) : List Note → Standing
  | [] => .absent
  | .created id' request expires :: older =>
    if id' = id then .waiting request expires else standing id older
  | .decided id' decision _ :: older =>
    if id' = id then (standing id older).decide decision else standing id older
  | .consumed id' _ :: older => if id' = id then (standing id older).consume else standing id older
  | .issued id' _ _ _ :: older => if id' = id then .absent else standing id older
  | .consentClock now :: older => (standing id older).atTime now
  | _ :: older => standing id older

/-- Notes on the standing of a request. -/
def about (id : String) : Note → Bool
  | .created id' _ _ | .decided id' _ _ | .consumed id' _ | .issued id' _ _ _ => id' == id
  | _ => false

/-! ### Codes -/

/-- The request a live code stands for, and its expiry. -/
def codeStanding (env : Gateway) (digest : String) :
    List Note → Option (ValidatedOAuthAuthorizationRequest × Nat)
  | [] => none
  | .issued _ digest' request expires :: older =>
    if digest' = digest then some (request, expires) else codeStanding env digest older
  | .revoked digest' :: older => if digest' = digest then none else codeStanding env digest older
  | .redeemed consumed :: older =>
    if env.digestCode consumed.binding.code = digest then none else codeStanding env digest older
  | .codeClock now :: older =>
    (codeStanding env digest older).filter fun live => Decidable.decide (now < live.2)
  | _ :: older => codeStanding env digest older

/-- Notes on what a code stands for. -/
def aboutCode (env : Gateway) (digest : String) : Note → Bool
  | .issued _ digest' _ _ | .revoked digest' => digest' == digest
  | .redeemed consumed => env.digestCode consumed.binding.code == digest
  | _ => false

/-- What was consumed is what the request was approved for. -/
structure Carries (consumed : ConsumedOAuthAuthorizationCode)
    (request : ValidatedOAuthAuthorizationRequest) : Prop where
  clientId : consumed.binding.clientId = request.clientId
  redirectUri : consumed.binding.redirectUri = request.redirectUri
  resource : consumed.binding.resource = request.resource
  codeChallenge : consumed.binding.codeChallenge = request.codeChallenge
  scopes : consumed.scopes = request.scopes

/-! ### Justified logs -/

/-- What has to stand before a note. -/
def Allowed (env : Gateway) (older : List Note) : Note → Prop
  | .created _ request _ => ∃ url policy, validateOAuthAuthorizationRequest url policy = .ok request
  | .decided id _ operator =>
    isRootAuthorization operator env.config.toGatewayConfig = true ∧
      ∃ request expires, standing id older = .waiting request expires
  | .consumed id decision => ∃ request expires, standing id older = .decided decision request expires
  | .issued id _ request _ => ∃ expires, standing id older = .consumed .approved request expires
  | .redeemed consumed => ∃ request,
      codeStanding env (env.digestCode consumed.binding.code) older =
        some (request, consumed.expiresAtMs) ∧ Carries consumed request
  | .token params consumed session =>
    .redeemed consumed ∈ older ∧ Proved env.sha256 params consumed.binding ∧
      session.claims.scopes = consumed.scopes
  | _ => True

def Justified (env : Gateway) : List Note → Prop
  | [] => True
  | note :: older => Allowed env older note ∧ Justified env older

theorem Justified.at {env : Gateway} {newer older : List Note} {note : Note}
    (h : Justified env (newer ++ note :: older)) : Allowed env older note ∧ Justified env older := by
  induction newer with
  | nil => exact h
  | cons _ newer ih => exact ih h.2

/-! ### Where a standing comes from -/

/-- A stretch of the log that says nothing of a request, in which it does not expire. -/
structure Quiet (id : String) (expiresAtMs : Nat) (stretch : List Note) : Prop where
  silent : ∀ note ∈ stretch, about id note = false
  early : ∀ now, Note.consentClock now ∈ stretch → now < expiresAtMs

theorem Quiet.nil (id : String) (expires : Nat) : Quiet id expires [] :=
  ⟨fun _ mem => absurd mem List.not_mem_nil, fun _ mem => absurd mem List.not_mem_nil⟩

theorem Quiet.cons {id : String} {expires : Nat} {note : Note} {stretch : List Note}
    (silent : about id note = false) (early : ∀ now, note = .consentClock now → now < expires)
    (rest : Quiet id expires stretch) : Quiet id expires (note :: stretch) := by
  refine ⟨List.forall_mem_cons.mpr ⟨silent, rest.silent⟩, fun now mem => ?_⟩
  rcases List.mem_cons.mp mem with own | other
  · exact early now own.symm
  · exact rest.early now other

/-- How a request came to stand where it stands: the last note says nothing of it, or is
what put it there. -/
theorem standing_cons {id : String} {note : Note} {older : List Note} {now : Standing}
    (h : standing id (note :: older) = now) (present : now ≠ .absent) :
    (about id note = false ∧ standing id older = now ∧
      ∀ time, note = .consentClock time → ∀ entry, now.live = some entry → time < entry.2.2) ∨
    (∃ request expires, note = .created id request expires ∧ now = .waiting request expires) ∨
    (∃ decision operator request expires, note = .decided id decision operator ∧
      standing id older = .waiting request expires ∧ now = .decided decision request expires) ∨
    (∃ noted decision request expires, note = .consumed id noted ∧
      standing id older = .decided decision request expires ∧
      now = .consumed decision request expires) := by
  subst h
  cases note with
  | created id' request expires =>
    rw [standing] at present ⊢
    by_cases own : id' = id
    · rw [if_pos own]
      exact Or.inr (Or.inl ⟨request, expires, own ▸ rfl, rfl⟩)
    · rw [if_neg own]
      exact Or.inl ⟨beq_eq_false_iff_ne.mpr own, rfl, fun _ other => by cases other⟩
  | decided id' decision operator =>
    rw [standing] at present ⊢
    by_cases own : id' = id
    · rw [if_pos own] at present ⊢
      cases before : standing id older with
      | waiting request expires =>
        exact Or.inr (Or.inr (Or.inl ⟨decision, operator, request, expires, own ▸ rfl, rfl, rfl⟩))
      | _ =>
        rw [before] at present
        exact absurd rfl present
    · rw [if_neg own]
      exact Or.inl ⟨beq_eq_false_iff_ne.mpr own, rfl, fun _ other => by cases other⟩
  | consumed id' noted =>
    rw [standing] at present ⊢
    by_cases own : id' = id
    · rw [if_pos own] at present ⊢
      cases before : standing id older with
      | decided decision request expires =>
        exact Or.inr (Or.inr (Or.inr ⟨noted, decision, request, expires, own ▸ rfl, rfl, rfl⟩))
      | _ =>
        rw [before] at present
        exact absurd rfl present
    · rw [if_neg own]
      exact Or.inl ⟨beq_eq_false_iff_ne.mpr own, rfl, fun _ other => by cases other⟩
  | issued id' digest request expires =>
    rw [standing] at present ⊢
    by_cases own : id' = id
    · rw [if_pos own] at present
      exact absurd rfl present
    · rw [if_neg own]
      exact Or.inl ⟨beq_eq_false_iff_ne.mpr own, rfl, fun _ other => by cases other⟩
  | consentClock time =>
    left
    rw [standing] at present ⊢
    cases before : standing id older with
    | absent => exact ⟨rfl, rfl, fun _ _ _ gone => by cases gone⟩
    | consumed => exact ⟨rfl, rfl, fun _ _ _ gone => by cases gone⟩
    | waiting request expires | decided decision request expires =>
      rw [before, Standing.atTime] at present
      rw [Standing.atTime]
      by_cases gone : expires ≤ time
      · rw [if_pos gone] at present
        exact absurd rfl present
      · rw [if_neg gone]
        refine ⟨rfl, rfl, fun time' same entry held => ?_⟩
        cases same
        cases held
        exact Nat.not_le.mp gone
  | _ => exact Or.inl ⟨rfl, rfl, fun _ other => by cases other⟩

theorem waiting_from {id : String} {log : List Note} {request : ValidatedOAuthAuthorizationRequest}
    {expires : Nat} (h : standing id log = .waiting request expires) :
    ∃ stretch start, log = stretch ++ .created id request expires :: start ∧
      Quiet id expires stretch := by
  induction log with
  | nil => cases h
  | cons note older ih =>
    rcases standing_cons h (by intro gone; cases gone) with ⟨silent, before, early⟩ |
      ⟨_, _, rfl, same⟩ | ⟨_, _, _, _, _, _, same⟩ | ⟨_, _, _, _, _, _, same⟩
    · obtain ⟨stretch, start, rfl, quiet⟩ := ih before
      exact ⟨note :: stretch, start, rfl,
        quiet.cons silent fun time same => early time same _ rfl⟩
    · cases same
      exact ⟨[], older, rfl, Quiet.nil _ _⟩
    · cases same
    · cases same

theorem decided_from {id : String} {log : List Note} {decision : OAuthConsentDecision}
    {request : ValidatedOAuthAuthorizationRequest} {expires : Nat}
    (h : standing id log = .decided decision request expires) :
    ∃ stretch operator start, log = stretch ++ .decided id decision operator :: start ∧
      Quiet id expires stretch ∧ standing id start = .waiting request expires := by
  induction log with
  | nil => cases h
  | cons note older ih =>
    rcases standing_cons h (by intro gone; cases gone) with ⟨silent, before, early⟩ |
      ⟨_, _, _, same⟩ | ⟨_, operator, _, _, rfl, before, same⟩ | ⟨_, _, _, _, _, _, same⟩
    · obtain ⟨stretch, operator, start, rfl, quiet, waiting⟩ := ih before
      exact ⟨note :: stretch, operator, start, rfl,
        quiet.cons silent fun time same => early time same _ rfl, waiting⟩
    · cases same
    · cases same
      exact ⟨[], operator, older, rfl, Quiet.nil _ _, before⟩
    · cases same

theorem consumed_from {id : String} {log : List Note} {decision : OAuthConsentDecision}
    {request : ValidatedOAuthAuthorizationRequest} {expires : Nat}
    (h : standing id log = .consumed decision request expires) :
    ∃ stretch noted start, log = stretch ++ .consumed id noted :: start ∧
      (∀ note ∈ stretch, about id note = false) ∧
      standing id start = .decided decision request expires := by
  induction log with
  | nil => cases h
  | cons note older ih =>
    rcases standing_cons h (by intro gone; cases gone) with ⟨silent, before, _⟩ |
      ⟨_, _, _, same⟩ | ⟨_, _, _, _, _, _, same⟩ | ⟨noted, _, _, _, rfl, before, same⟩
    · obtain ⟨stretch, noted, start, rfl, quiet, decided⟩ := ih before
      exact ⟨note :: stretch, noted, start, rfl, List.forall_mem_cons.mpr ⟨silent, quiet⟩, decided⟩
    · cases same
    · cases same
    · cases same
      exact ⟨[], noted, older, rfl, fun _ mem => absurd mem List.not_mem_nil, before⟩

/-- The operator approved the request, which the validator had accepted, before its expiry.
Nothing else happened to it until its decision was consumed, nor since. -/
structure Approved (env : Gateway) (older : List Note) (id : String)
    (request : ValidatedOAuthAuthorizationRequest) : Prop where
  story : ∃ since noted settled operator undecided expires start,
    older = since ++ .consumed id noted :: (settled ++ .decided id .approved operator ::
      (undecided ++ .created id request expires :: start)) ∧
    (∀ note ∈ since, about id note = false) ∧ Quiet id expires settled ∧
    Quiet id expires undecided ∧ isRootAuthorization operator env.config.toGatewayConfig = true
  validated : ∃ url policy, validateOAuthAuthorizationRequest url policy = .ok request

theorem approved_of_consumed {env : Gateway} {log : List Note} {id : String}
    {request : ValidatedOAuthAuthorizationRequest} {expires : Nat} (justified : Justified env log)
    (h : standing id log = .consumed .approved request expires) : Approved env log id request := by
  obtain ⟨since, noted, start, rfl, silent, decided⟩ := consumed_from h
  obtain ⟨_, justified⟩ := justified.at
  obtain ⟨settled, operator, start', rfl, quiet, waiting⟩ := decided_from decided
  obtain ⟨⟨root, _⟩, justified⟩ := justified.at
  obtain ⟨undecided, start'', rfl, quiet'⟩ := waiting_from waiting
  obtain ⟨validated, _⟩ := justified.at
  exact ⟨⟨since, noted, settled, operator, undecided, expires, start'', rfl, silent, quiet, quiet',
    root⟩, validated⟩

/-- The code was issued for the request and neither presented, revoked nor expired since. -/
structure LiveCode (env : Gateway) (digest : String) (log : List Note)
    (request : ValidatedOAuthAuthorizationRequest) (expiresAtMs : Nat) : Prop where
  story : ∃ stretch id start, log = stretch ++ .issued id digest request expiresAtMs :: start ∧
    (∀ note ∈ stretch, aboutCode env digest note = false) ∧
    ∀ now, Note.codeClock now ∈ stretch → now < expiresAtMs

theorem LiveCode.cons {env : Gateway} {digest : String} {note : Note} {older : List Note}
    {request : ValidatedOAuthAuthorizationRequest} {expires : Nat}
    (silent : aboutCode env digest note = false)
    (early : ∀ now, note = .codeClock now → now < expires)
    (live : LiveCode env digest older request expires) :
    LiveCode env digest (note :: older) request expires := by
  obtain ⟨stretch, id, start, rfl, quiet, clocks⟩ := live.story
  refine ⟨note :: stretch, id, start, rfl, List.forall_mem_cons.mpr ⟨silent, quiet⟩, fun now mem => ?_⟩
  rcases List.mem_cons.mp mem with own | other
  · exact early now own.symm
  · exact clocks now other

theorem liveCode_of_standing {env : Gateway} {digest : String} {log : List Note}
    {request : ValidatedOAuthAuthorizationRequest} {expires : Nat}
    (h : codeStanding env digest log = some (request, expires)) :
    LiveCode env digest log request expires := by
  induction log with
  | nil => cases h
  | cons note older ih =>
    cases note with
    | issued id digest' request' expires' =>
      rw [codeStanding] at h
      by_cases own : digest' = digest
      · rw [if_pos own] at h
        cases h
        exact ⟨[], id, older, by rw [own]; rfl, fun _ mem => absurd mem List.not_mem_nil,
          fun _ mem => absurd mem List.not_mem_nil⟩
      · rw [if_neg own] at h
        exact (ih h).cons (beq_eq_false_iff_ne.mpr own) fun _ other => by cases other
    | revoked digest' =>
      rw [codeStanding] at h
      by_cases own : digest' = digest
      · rw [if_pos own] at h
        cases h
      · rw [if_neg own] at h
        exact (ih h).cons (beq_eq_false_iff_ne.mpr own) fun _ other => by cases other
    | redeemed consumed =>
      rw [codeStanding] at h
      by_cases own : env.digestCode consumed.binding.code = digest
      · rw [if_pos own] at h
        cases h
      · rw [if_neg own] at h
        exact (ih h).cons (beq_eq_false_iff_ne.mpr own) fun _ other => by cases other
    | codeClock now =>
      rw [codeStanding, Option.filter_eq_some_iff, decide_eq_true_eq] at h
      exact (ih h.1).cons rfl fun now' same => by cases same; exact h.2
    | _ => exact (ih h).cons rfl fun _ other => by cases other

/-! ### Counts -/

def codesFor (id : String) (log : List Note) : Nat :=
  log.countP fun
    | .issued id' _ _ _ => id' == id
    | _ => false

def approvals (id : String) (log : List Note) : Nat :=
  log.countP fun
    | .decided id' .approved _ => id' == id
    | _ => false

def issues (digest : String) (log : List Note) : Nat :=
  log.countP fun
    | .issued _ digest' _ _ => digest' == digest
    | _ => false

def redemptions (env : Gateway) (digest : String) (log : List Note) : Nat :=
  log.countP fun
    | .redeemed consumed => env.digestCode consumed.binding.code == digest
    | _ => false

def tokens (env : Gateway) (digest : String) (log : List Note) : Nat :=
  log.countP fun
    | .token _ consumed _ => env.digestCode consumed.binding.code == digest
    | _ => false

theorem credit_atTime (now : Nat) (standing : Standing) :
    (standing.atTime now).credit ≤ standing.credit := by
  cases standing with
  | absent => exact Nat.le_refl _
  | consumed => exact Nat.le_refl _
  | waiting request expires | decided decision request expires =>
    rw [Standing.atTime]
    split
    · exact Nat.zero_le _
    · exact Nat.le_refl _

/-- Codes issued for a request, and the approval that may still lead to one, are covered
by its approvals. -/
theorem codesFor_le {env : Gateway} {log : List Note} (justified : Justified env log) (id : String) :
    codesFor id log + (standing id log).credit ≤ approvals id log := by
  induction log with
  | nil => exact Nat.le_refl _
  | cons note older ih =>
    obtain ⟨allowed, justified⟩ := justified
    have before := ih justified
    rw [codesFor, approvals] at before ⊢
    rw [List.countP_cons, List.countP_cons]
    cases note with
    | created id' request expires =>
      rw [standing]
      simp only [Bool.false_eq_true, if_false]
      by_cases own : id' = id
      · rw [if_pos own]
        exact Nat.le_trans (Nat.le_add_right _ _) before
      · rw [if_neg own]
        exact before
    | decided id' decision operator =>
      obtain ⟨_, request, expires, waiting⟩ := allowed
      rw [standing]
      by_cases own : id' = id
      · subst own
        rw [if_pos rfl, waiting]
        cases decision with
        | approved =>
          simp only [Standing.decide, Standing.credit, Bool.false_eq_true, if_false, beq_self_eq_true,
            if_true]
          omega
        | denied =>
          simp only [Standing.decide, Standing.credit, Bool.false_eq_true, if_false]
          omega
      · have other : (id' == id) = false := beq_eq_false_iff_ne.mpr own
        rw [if_neg own]
        cases decision with
        | approved =>
          simp only [other, Bool.false_eq_true, if_false]
          exact before
        | denied => exact before
    | consumed id' noted =>
      obtain ⟨request, expires, decided⟩ := allowed
      rw [standing]
      simp only [Bool.false_eq_true, if_false]
      by_cases own : id' = id
      · subst own
        rw [if_pos rfl, decided]
        rw [decided] at before
        cases noted <;> exact before
      · rw [if_neg own]
        exact before
    | issued id' digest request expires =>
      obtain ⟨_, consumed⟩ := allowed
      rw [standing]
      simp only [Bool.false_eq_true, if_false]
      by_cases own : id' = id
      · subst own
        rw [consumed] at before
        rw [if_pos rfl]
        simp only [beq_self_eq_true, if_true, Standing.credit] at before ⊢
        exact before
      · have other : (id' == id) = false := beq_eq_false_iff_ne.mpr own
        simp only [if_neg own, other, Bool.false_eq_true, if_false]
        exact before
    | consentClock now =>
      have less := credit_atTime now (standing id older)
      rw [standing]
      simp only [Bool.false_eq_true, if_false]
      omega
    | _ => exact before

/-- The same for the redemptions of a code and the live one. -/
theorem redemptions_le {env : Gateway} {log : List Note} (justified : Justified env log)
    (digest : String) :
    redemptions env digest log + (codeStanding env digest log).isSome.toNat ≤ issues digest log := by
  induction log with
  | nil => exact Nat.le_refl _
  | cons note older ih =>
    obtain ⟨allowed, justified⟩ := justified
    have before := ih justified
    rw [redemptions, issues] at before ⊢
    rw [List.countP_cons, List.countP_cons]
    cases note with
    | issued id' digest' request expires =>
      rw [codeStanding]
      simp only [Bool.false_eq_true, if_false]
      by_cases own : digest' = digest
      · have same : (digest' == digest) = true := beq_iff_eq.mpr own
        simp only [if_pos own, same, if_true, Option.isSome_some, Bool.toNat_true]
        omega
      · have other : (digest' == digest) = false := beq_eq_false_iff_ne.mpr own
        simp only [if_neg own, other, Bool.false_eq_true, if_false]
        exact before
    | revoked digest' =>
      rw [codeStanding]
      simp only [Bool.false_eq_true, if_false]
      split
      · rw [Option.isSome_none, Bool.toNat_false]
        omega
      · exact before
    | redeemed consumed =>
      obtain ⟨request, live, _⟩ := allowed
      rw [codeStanding]
      simp only [Bool.false_eq_true, if_false]
      by_cases own : env.digestCode consumed.binding.code = digest
      · rw [own] at live
        rw [live, Option.isSome_some, Bool.toNat_true] at before
        have same : (env.digestCode consumed.binding.code == digest) = true := beq_iff_eq.mpr own
        simp only [if_pos own, same, if_true, Option.isSome_none, Bool.toNat_false]
        exact before
      · have other : (env.digestCode consumed.binding.code == digest) = false :=
          beq_eq_false_iff_ne.mpr own
        simp only [if_neg own, other, Bool.false_eq_true, if_false]
        exact before
    | codeClock now =>
      rw [codeStanding]
      simp only [Bool.false_eq_true, if_false]
      have less : ((codeStanding env digest older).filter fun live =>
          Decidable.decide (now < live.2)).isSome.toNat ≤ (codeStanding env digest older).isSome.toNat := by
        cases codeStanding env digest older with
        | none => exact Nat.le_refl _
        | some live =>
          rw [Option.isSome_some, Bool.toNat_true]
          exact Bool.toNat_le _
      omega
    | _ => exact before

end OAuthLog
