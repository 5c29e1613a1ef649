import TaskQueQue.AdmissionLanguage
import TaskQueQue.WorkerDaemon

/-!
# Calls of a client

A call names its headers and has a body. The client that writes it adds headers of its own,
the length of the body among them, and writes all of them in an order and spelling of its
choice. The daemon's reader finds every header of the call under its name in lower case.
-/

namespace ClientCalls

open GatewayValues HttpFraming RequestRendering AdmissionLanguage WorkerDaemon ProviderSnapshots

/-- A call by `POST`. -/
structure Call where
  path : String
  headers : List (String × String)
  body : String := ""

def Call.lowered (call : Call) : List (String × String) :=
  call.headers.map fun header => (lowerName header.1, header.2)

/-- A call that a client can write. -/
structure Proper (call : Call) : Prop where
  rooted : call.path.toList.head? = some '/'
  path : ∀ c ∈ call.path.toList, visible c = true
  distinct : (call.lowered.map Prod.fst).Nodup
  unchunked : "transfer-encoding" ∉ call.lowered.map Prod.fst
  values : ∀ header ∈ call.headers, FieldValue header.2
  small : call.path.length + headerBytes call.headers ≤ 8000

/-- How a client writes the call. -/
structure Sending (call : Call) where
  fields : List (String × String)
  own : List (String × String)
  sends : (fields.map fun field => (lowerName field.1, field.2)).Perm (own ++ call.lowered)
  names : ∀ field ∈ fields, Token field.1
  length : ("content-length", toString call.body.utf8ByteSize) ∈ own
  ownDistinct : (own.map Prod.fst).Nodup
  ownOther : ∀ header ∈ own, header.1 ∉ "transfer-encoding" :: call.lowered.map Prod.fst
  ownValues : ∀ header ∈ own, FieldValue header.2
  ownSmall : headerBytes own ≤ 8192

namespace Sending
variable {call : Call} (sending : Sending call)

def request : ClientRequest where
  method := "POST"
  path := call.path
  fields := sending.fields
  body := call.body

/-- The bytes of the call, cut in any way. -/
def Brings (pieces : List (List UInt8)) : Prop := pieces.flatten = sending.request.bytes

theorem requestLine_eq : requestLine sending.request =
    ['P', 'O', 'S', 'T'] ++ ' ' :: (call.path.toList ++ " HTTP/1.1".toList) := by
  have post : "POST".toList = ['P', 'O', 'S', 'T'] := by decide
  rw [← post]
  rfl

theorem wellFormed (proper : Proper call) : WellFormed sending.request := by
  have lowered := sending.sends
  have names : (sending.fields.map fun field => lowerName field.1).Perm
      (sending.own.map Prod.fst ++ call.lowered.map Prod.fst) := by
    have fronts := lowered.map Prod.fst
    rwa [List.map_map, List.map_append] at fronts
  constructor
  · have shown : "POST".toList.all visible = true := by decide
    exact ⟨(by decide : "POST" ≠ ""), List.all_eq_true.mp shown⟩
  · exact ⟨proper.rooted, proper.path⟩
  · exact sending.names
  · intro field mem
    have sent : (lowerName field.1, field.2) ∈ sending.own ++ call.lowered :=
      lowered.subset (List.mem_map.mpr ⟨field, mem, rfl⟩)
    rcases List.mem_append.mp sent with own | asked
    · exact sending.ownValues (lowerName field.1, field.2) own
    · obtain ⟨header, member, same⟩ := List.mem_map.mp asked
      have value := proper.values header member
      rwa [(Prod.mk.inj same).2] at value
  · refine names.nodup_iff.mpr
      (List.nodup_append.mpr ⟨sending.ownDistinct, proper.distinct, ?_⟩)
    rintro name own name' asked rfl
    obtain ⟨header, mem, rfl⟩ := List.mem_map.mp own
    exact sending.ownOther header mem (List.mem_cons_of_mem _ asked)
  · intro mem
    rcases List.mem_append.mp (names.subset mem) with own | asked
    · obtain ⟨header, mem, named⟩ := List.mem_map.mp own
      refine sending.ownOther header mem ?_
      rw [named]
      exact List.mem_cons_self
    · exact proper.unchunked asked
  · exact lowered.symm.subset (List.mem_append_left _ sending.length)
  · have own := sending.ownSmall
    have asked := proper.small
    have total : headerBytes sending.fields = headerBytes sending.own + headerBytes call.headers := by
      rw [← headerBytes_lowered, headerBytes_perm lowered, headerBytes_append, Call.lowered,
        headerBytes_lowered]
    have line : (requestLine sending.request).length = call.path.length + 14 := by
      have last : " HTTP/1.1".toList.length = 9 := by decide
      have path : call.path.toList.length = call.path.length := String.length_toList
      simp only [sending.requestLine_eq, List.length_append, List.length_cons, List.length_nil,
        path, last]
      omega
    have limit : MAX_HEADER_BYTES = 16384 := rfl
    have head : sending.request.fields = sending.fields := rfl
    rw [headText, length_joinLines, line, limit, head]
    omega

/-- What the daemon finds in the request. -/
theorem header (proper : Proper call) {name value : String} (mem : (name, value) ∈ call.headers) :
    sending.request.received.header (lowerName name) = some value := by
  refine received_header (sending.wellFormed proper) (sending.sends.symm.subset ?_)
  exact List.mem_append_right _ (List.mem_map.mpr ⟨(name, value), mem, rfl⟩)

/-- A call is no request for the providers. -/
theorem undetected (proper : Proper call) {pieces : List (List UInt8)}
    (brings : sending.Brings pieces) (ending : Ending) :
    detectProviderSnapshotRequest ending [] pieces = some false := by
  have first : pieces.flatten.head? = some 80 := by
    rw [brings, ClientRequest.bytes, encode_headText (sending.wellFormed proper)]
    have starts : ∃ rest, headText sending.request = 'P' :: rest := by
      rw [headText, sending.requestLine_eq]
      cases sending.request.fields.map fieldLine with
      | nil => exact ⟨_, rfl⟩
      | cons line lines => exact ⟨_, rfl⟩
    obtain ⟨rest, starts⟩ := starts
    rw [starts]
    rfl
  have lines : PROVIDER_HTTP_11.head? = some 71 ∧ PROVIDER_HTTP_10.head? = some 71 := by decide
  have apart : ∀ line : List UInt8, line.head? = some 71 →
      line.isPrefixOf pieces.flatten = false ∧ pieces.flatten.isPrefixOf line = false := by
    intro line get
    cases whole : pieces.flatten with
    | nil =>
      rw [whole] at first
      cases first
    | cons byte bytes =>
      cases line with
      | nil => cases get
      | cons other others =>
        rw [whole] at first
        cases first
        cases get
        exact ⟨rfl, rfl⟩
  rw [detect_eq_verdict, verdict, isProviderSnapshotRequest, couldBePartialProviderSnapshotRequest,
    (apart _ lines.1).1, (apart _ lines.2).1, (apart _ lines.1).2, (apart _ lines.2).2]
  rfl

/-- However it is cut, the call reaches the routes as it was made. -/
theorem read (proper : Proper call)
    (fits : call.body.utf8ByteSize ≤ ResultProjection.maxResultProjectionBytes)
    {pieces : List (List UInt8)} (brings : sending.Brings pieces) (m : WorkerRoutes.Moment)
    (ending : Ending) :
    (Event.connection m ending pieces).request? = some sending.request.received := by
  have small : sending.request.body.utf8ByteSize ≤ workerApi.maxBodyBytes := fits
  have whole : readRequest workerApi ending pieces = .ok sending.request.received :=
    readRequest_bytes (sending.wellFormed proper) small (by decide) brings ending
  rw [Event.request?, if_pos (sending.undetected proper brings ending), whole]
  rfl

theorem isTo : WorkerRoutes.isTo sending.request.received "POST" call.path = true :=
  decide_eq_true ⟨rfl, rfl⟩

theorem body_empty (bare : call.body = "") : sending.request.received.body = [] := by
  have bytes : sending.request.received.body = CapabilityAuth.encode call.body := rfl
  rw [bytes, bare]
  rfl

end Sending

end ClientCalls
