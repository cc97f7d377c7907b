import ModelRegistry.Proofs.Link.Refinement
import ModelRegistry.Proofs.Store.Atomicity
import ModelRegistry.Proofs.Wire.Records

/-!
# What was registered over a socket is read back over it

A version that was registered over a socket is there to be looked up, and the record that the store
answers with is the one that was registered (`Store.lookup_of_registration`).  A lookup finds the
oldest record with a number, so this needs that the number was not there before, which is so as long
as the name has not used up its numbers (`Store.version_ne_of_registration`).

Whether the record comes through is a matter of sizes alone.  The request to look it up is sent,
since the request to register it was; but the reply holds the text of the record as a text, which
escapes it twice, and may be over the limit even so.

`registration_reads_back` says for every limit what becomes of the lookup.  Quotes are characters
that take two bytes in the request and four in the reply, so under every limit there are records
that can be registered and not looked up (`exists_not_reads_back`).
-/

namespace ModelRegistry

namespace Store

variable {s : Store} {r : ModelRecord}

/-- A version that was just registered comes behind the others. -/
theorem versions_of_register {name path : String} {active : Bool} {description appInfo : String}
    {v : UInt32} (h : (s.register name path active description appInfo).1 = .ok v) :
    (s.register name path active description appInfo).2.versions name =
      (besides active (s.newestFirst name)).reverse ++
        [⟨name, path, v, active, description, appInfo⟩] := by
  have hstep := s.step_register name path active description appInfo
  rw [h] at hstep
  generalize (s.register name path active description appInfo).2 = s' at hstep
  cases hstep with
  | registered hname hpath => rw [versions, newestFirst_keep, if_pos rfl, List.reverse_cons]

/-- The numbers of the others stay the same. -/
theorem exists_version_eq_of_mem_besides {active : Bool} {ms : List ModelRecord} {m : ModelRecord}
    (hm : m ∈ besides active ms) : ∃ older ∈ ms, older.version = m.version := by
  unfold besides at hm
  split at hm
  · obtain ⟨older, holder, rfl⟩ := List.mem_map.1 hm
    exact ⟨older, holder, rfl⟩
  · exact ⟨m, hm, rfl⟩

/-- A version that was just registered is looked up as it was registered, if its number was not
there before. -/
theorem lookup_of_registration (hfresh : ∀ m ∈ s.newestFirst r.name, m.version ≠ r.version)
    (h : (backend r.registration s).1 = .ok r.version) :
    (backend r.lookup (backend r.registration s).2).1 = .ok r.text := by
  have hversions : (backend r.registration s).2.versions r.name =
      (besides r.active (s.newestFirst r.name)).reverse ++ [r] := versions_of_register h
  have hnone : (besides r.active (s.newestFirst r.name)).reverse.find?
      (fun m => m.version = r.version) = none := by
    refine List.find?_eq_none.2 fun m hm => ?_
    obtain ⟨older, holder, hversion⟩ :=
      exists_version_eq_of_mem_besides (List.mem_reverse.1 hm)
    simpa [hversion] using hfresh older holder
  have hfound : (backend r.registration s).2.version? r.name r.version = some r := by
    rw [version?, hversions, List.find?_append, hnone]
    simp
  have hget : (backend r.registration s).2.get r.name r.version = .ok r :=
    get_eq_ok_iff_version?.2 hfound
  exact congrArg (Except.map ModelRecord.text) hget

/-- After a run that has left numbers to the name, the number of a registration is new. -/
theorem version_ne_of_registration {cs : List Call}
    (hcount : (run cs).1.registrations r.name < UInt32.size)
    (h : (backend r.registration (run cs).2).1 = .ok r.version) :
    ∀ m ∈ (run cs).2.newestFirst r.name, m.version ≠ r.version := by
  have hstep := step_backend r.registration (run cs).2
  rw [h] at hstep
  have hnext : r.version = (run cs).2.next r.name :=
    hstep.registered?_eq (Exchange.registered?_eq_some_iff.2 ⟨_, _, _, _, rfl⟩)
  intro m hm
  rw [hnext]
  exact version_ne_next_run hcount hm

end Store

namespace ModelRecord

variable {limit : Nat} {r : ModelRecord}

/-- A record can be asked for if it could be registered. -/
theorem sendable_lookup (h : r.registration.Sendable limit) : r.lookup.Sendable limit := by
  have hsmaller := r.size_lookup_le
  obtain ⟨hfits, hframe⟩ := h
  rw [Call.requestSize, Message.size_toModel] at hfits hframe
  rw [Call.Sendable, Call.requestSize, Message.size_toModel]
  omega

/-- The reply with a record has a length of 64 bits if the record could be registered. -/
theorem replySize_lt (h : r.registration.Sendable limit) :
    r.lookup.replySize (.ok r.text) < UInt64.size := by
  have hrecord : (Text.bytes r.text).length ≤ Wire.size r.registration.toJson :=
    r.size_le_registration
  have hframe : Wire.size (Message.toModel r.registration).toJson < 0x100000000 := h.2
  have hreply : r.lookup.replySize (.ok r.text) = _ := Reply.size_info r.text .ok
  have htext := Wire.size_text_le r.text
  have hstatus : Wire.size (Json.Kind.toJson .status Status.ok) = 1 := rfl
  rw [Message.size_toModel] at hframe
  show _ < 0x10000000000000000
  omega

end ModelRecord

namespace Client

variable {β : Type} {limit : Nat} {store : Store} {client : Client (Link β Store)} {r : ModelRecord}

/-- A call that changes the registry is answered as the store answers it, if its request is sent. -/
theorem sameAnswer_of_sendable (hready : Ready Store.backend limit store client)
    (hlow : 4096 ≤ limit) (socket : Path) {c : Call} (hchanges : c.method.isLookup = false)
    (h : c.Sendable limit) :
    SameAnswer (overSocket socket limit c client).1 (Store.backend c store).1 := by
  have hshort := c.replySize_le hchanges (Store.backend c store).1
  have hdelivered := Reply.delivered?_of_le
    (Nat.le_trans hshort (Nat.le_trans (by decide) hlow)) (Nat.lt_of_le_of_lt hshort (by decide))
  have hanswer := (overSocket_of_sendable hready socket h).2
  rw [hdelivered] at hanswer
  cases hanswer with
  | delivered h =>
    rw [h]
    exact toAnswer_ofAnswer fun refusal => Store.code_ne_ok

/-- A registration returns a version over the socket just when its request is sent and the store
hands that version out. -/
theorem registration_eq_ok_iff (hready : Ready Store.backend limit store client)
    (hlow : 4096 ≤ limit) (socket : Path) :
    (overSocket socket limit r.registration client).1 = .ok r.version ↔
      r.registration.Sendable limit ∧ (Store.backend r.registration store).1 = .ok r.version := by
  by_cases hsent : r.registration.Sendable limit
  · rw [and_iff_right hsent]
    exact (sameAnswer_of_sendable hready hlow socket rfl hsent).eq_ok_iff r.version
  · obtain ⟨-, refusal, hrefused⟩ := overSocket_of_not_sendable hready socket hsent
    rw [hrefused]
    exact iff_of_false nofun fun h => hsent h.1

/-- What was registered is looked up next, and what is delivered of the record is the answer. -/
theorem lookup_of_registration (hready : Ready Store.backend limit store client)
    (hlow : 4096 ≤ limit) (socket : Path)
    (hfresh : ∀ m ∈ store.newestFirst r.name, m.version ≠ r.version)
    (h : (overSocket socket limit r.registration client).1 = .ok r.version) :
    Hears Reply.toInfo ((Reply.info r.text .ok).delivered? limit)
      (overSocket socket limit r.lookup (overSocket socket limit r.registration client).2).1 := by
  obtain ⟨hsent, hstored⟩ := (registration_eq_ok_iff hready hlow socket).1 h
  have hnext := (overSocket_of_sendable hready socket hsent).1
  have hanswer := (overSocket_of_sendable hnext socket (ModelRecord.sendable_lookup hsent)).2
  have hreply : Reply.ofAnswer r.lookup
      (Store.backend r.lookup (Store.backend r.registration store).2).1 = .info r.text .ok := by
    rw [Store.lookup_of_registration hfresh hstored]
    rfl
  rw [hreply] at hanswer
  exact hanswer

/-- A record whose reply is over the limit is not handed over. -/
theorem lookup_of_oversize (hready : Ready Store.backend limit store client) (hlow : 4096 ≤ limit)
    (socket : Path) (hfresh : ∀ m ∈ store.newestFirst r.name, m.version ≠ r.version)
    (h : (overSocket socket limit r.registration client).1 = .ok r.version)
    (hlarge : limit < r.lookup.replySize (.ok r.text)) :
    ∃ refusal,
      (overSocket socket limit r.lookup (overSocket socket limit r.registration client).2).1 =
        .error refusal ∧ refusal.code = .invalidParameter := by
  have hsent := ((registration_eq_ok_iff hready hlow socket).1 h).1
  have hheard := lookup_of_registration hready hlow socket hfresh h
  have hsize := ModelRecord.replySize_lt hsent
  rw [Reply.delivered?_of_lt (r := .info r.text .ok) hlarge hlow hsize] at hheard
  cases hheard with
  | delivered h => exact ⟨_, h, rfl⟩

end Client

/-- **What was registered over a socket is read back over it**, if the reply that carries the record
can be sent.  Let a client and a server have a limit of 4096 bytes or more.  Behind the server is
the store that any calls have left, and after these the client has made calls of its own.  As long
as the calls that the store has seen have not used up the numbers of a name, the following holds.
Once a registration of the name has returned a version, the text of the record is one that is read
as what was registered, and looking that version up returns just this text whenever the reply with
it is within the limit and a header can say how long it is.  When that reply is over the limit, the
lookup is refused as having a wrong parameter, and when it is only too long for a header, the
connection is broken. -/
theorem registration_reads_back {limit : Nat} (hlow : 4096 ≤ limit) (maxConnections : Nat)
    (socket : Path) (earlier cs : List Call) (record : ModelRecord) :
    let client := ((Client.overSocket socket limit).run cs
      (Client.ofStarted Store.backend (Store.run earlier).2 limit maxConnections)).2
    let seen := earlier ++ cs.filter fun c => c.Sendable limit
    let added := Client.overSocket socket limit record.registration client
    let got := (Client.overSocket socket limit record.lookup added.2).1
    let size := record.lookup.replySize (.ok record.text)
    (Store.run seen).1.registrations record.name < UInt32.size →
    added.1 = .ok record.version →
      ModelRecord.decode (Text.bytes record.text) = .ok record ∧
      (size ≤ limit → size < UInt32.size → got = .ok record.text) ∧
      (limit < size → ∃ refusal, got = .error refusal ∧ refusal.code = .invalidParameter) ∧
      (size ≤ limit → UInt32.size ≤ size →
        ∃ refusal, got = .error refusal ∧ refusal.code = .io) := by
  intro client seen added got size hcount hadded
  have hseen : (Store.backend.run (cs.filter fun c => c.Sendable limit) (Store.run earlier).2).2 =
      (Store.run seen).2 :=
    (congrArg Prod.snd (Store.backend.run_append earlier _ .empty)).symm
  have hready : Client.Ready Store.backend limit (Store.run seen).2 client := by
    rw [← hseen]
    exact Client.ready_run_sendable (Client.ready_ofStarted Store.backend _ limit maxConnections)
      socket cs
  have hfresh := Store.version_ne_of_registration hcount
    ((Client.registration_eq_ok_iff hready hlow socket).1 hadded).2
  have hheard : Client.Hears Reply.toInfo ((Reply.info record.text .ok).delivered? limit) got :=
    Client.lookup_of_registration hready hlow socket hfresh hadded
  refine ⟨record.decode_text, ?_, Client.lookup_of_oversize hready hlow socket hfresh hadded, ?_⟩
  · intro hfits hframe
    rw [Reply.delivered?_of_le (r := .info record.text .ok) hfits hframe] at hheard
    cases hheard with
    | delivered h => exact h
  · intro hfits hframe
    rw [Reply.delivered?_of_ge (r := .info record.text .ok) hfits hframe] at hheard
    cases hheard with
    | broken h hcode => exact ⟨_, h, hcode⟩

/-- Under the least limit a registration is read back, although an older version is there. -/
theorem registration_reads_back_under_least_limit :
    let earlier : List Call := [.register "m" "/models/a" true "first" ""]
    let record : ModelRecord := ⟨"m", "/models/b", 2, true, "second", ""⟩
    let socket := Path.ofText "/run/registry"
    let added := Client.overSocket socket 4096 record.registration
      (Client.ofStarted Store.backend (Store.run earlier).2 4096 1)
    4096 ≤ 4096 ∧ (Store.run earlier).1.registrations "m" < UInt32.size ∧
      added.1 = .ok record.version ∧
      (Client.overSocket socket 4096 record.lookup added.2).1 = .ok record.text := by
  intro earlier record socket added
  have hready := Client.ready_ofStarted Store.backend (Store.run earlier).2 4096 1
  have hsent : record.registration.Sendable 4096 := by decide +kernel
  have hadded : added.1 = .ok record.version :=
    (Client.registration_eq_ok_iff (r := record) hready (Nat.le_refl _) socket).2 ⟨hsent, rfl⟩
  have hsize : record.lookup.replySize (.ok record.text) ≤ 4096 := by decide +kernel
  have hcount : (Store.run earlier).1.registrations "m" < UInt32.size :=
    Nat.lt_of_le_of_lt (Store.registrations_run_le earlier "m") (by decide)
  obtain ⟨-, hgot, -⟩ :=
    registration_reads_back (Nat.le_refl 4096) 1 socket earlier [] record hcount hadded
  exact ⟨Nat.le_refl _, hcount, hadded, hgot hsize (Nat.lt_of_le_of_lt hsize (by decide))⟩

/-- A record is registered and not read back when its reply is over the limit. -/
theorem not_reads_back {limit : Nat} (hlow : 4096 ≤ limit) (maxConnections : Nat) (socket : Path)
    {record : ModelRecord} (hsent : record.registration.Sendable limit)
    (hstored : (Store.backend record.registration .empty).1 = .ok record.version)
    (hlarge : limit < record.lookup.replySize (.ok record.text)) :
    let added := Client.overSocket socket limit record.registration
      (Client.ofStarted Store.backend .empty limit maxConnections)
    let got := (Client.overSocket socket limit record.lookup added.2).1
    added.1 = .ok record.version ∧
      ¬ ∃ text, got = .ok text ∧ ModelRecord.decode (Text.bytes text) = .ok record := by
  intro added got
  have hready := Client.ready_ofStarted Store.backend .empty limit maxConnections
  have hadded : added.1 = .ok record.version :=
    (Client.registration_eq_ok_iff hready hlow socket).2 ⟨hsent, hstored⟩
  have hfresh : ∀ m ∈ Store.empty.newestFirst record.name, m.version ≠ record.version := nofun
  obtain ⟨refusal, hrefused, -⟩ :=
    Client.lookup_of_oversize hready hlow socket hfresh hadded hlarge
  refine ⟨hadded, ?_⟩
  rintro ⟨text, htext, -⟩
  have herror : got = .error refusal := hrefused
  rw [htext] at herror
  cases herror

/-- A record whose description is nothing but quotes. -/
def quoted (n : Nat) : ModelRecord where
  name := "m"
  path := "/a"
  version := 1
  active := false
  description := String.ofList (List.replicate n '"')
  appInfo := ""

theorem description_quoted (n : Nat) : (quoted n).description.toList = List.replicate n '"' :=
  String.toList_ofList

/-- Each of the quotes takes two bytes in the request. -/
theorem requestSize_quoted (n : Nat) : (quoted n).registration.requestSize = 2 * n + 166 := by
  have hname : Json.memberSize ("name", .text "m") = 11 := rfl
  have hpath : Json.memberSize ("path", .text "/a") = 12 := rfl
  have hactive : Wire.size (.flag false) = 5 := rfl
  have hinfo : Json.memberSize ("app_info", .text "") = 14 := rfl
  have haddress : Json.memberSize ("object_path", .text modelObjectPath) = 57 := rfl
  have hshared : (quoted n).sharedSize = Json.memberSize ("name", .text "m") +
      Json.memberSize ("path", .text "/a") + Wire.size (.flag false) +
      Json.memberSize ("description", .text (quoted n).description) +
      Json.memberSize ("app_info", .text "") := rfl
  have hdescription := Json.memberSize_eq
    (by rfl : (Text.utf8 (Json.writeText "description")).length = 13) (.text (quoted n).description)
  have hquote : Json.escapedSize ['"'] = 2 := rfl
  rw [Json.size_text, description_quoted, (Json.escapedSize_replicate n '"').1, hquote]
    at hdescription
  rw [Call.requestSize, Message.size_toModel, ModelRecord.size_registration, hshared, hdescription]
  omega

/-- Each of the quotes takes four bytes in the reply. -/
theorem lt_replySize_quoted (n : Nat) :
    4 * n < (quoted n).lookup.replySize (.ok (quoted n).text) := by
  have hmem : ("description", .text (quoted n).description) ∈
      Json.toMembers Json.Kind.toJson ModelRecord.fields (quoted n).values :=
    .tail _ (.tail _ (.tail _ (.tail _ (.head _))))
  have htwice : _ ≤ Wire.size (.text (quoted n).text) := Json.escapedSize_escape_le hmem
  have hquote : Json.escapedSize (Json.escapeChar '"') = 4 := rfl
  rw [description_quoted, (Json.escapedSize_replicate n '"').2, hquote] at htwice
  have hreply : (quoted n).lookup.replySize (.ok (quoted n).text) = _ :=
    Reply.size_info (quoted n).text .ok
  omega

/-- No limit of 32 bits is high enough for every record. -/
theorem exists_not_reads_back {limit : Nat} (hlow : 4096 ≤ limit) (hhigh : limit < UInt32.size)
    (maxConnections : Nat) (socket : Path) : ∃ record : ModelRecord,
    let added := Client.overSocket socket limit record.registration
      (Client.ofStarted Store.backend .empty limit maxConnections)
    let got := (Client.overSocket socket limit record.lookup added.2).1
    added.1 = .ok record.version ∧
      ¬ ∃ text, got = .ok text ∧ ModelRecord.decode (Text.bytes text) = .ok record := by
  have hrequest := requestSize_quoted ((limit - 166) / 2)
  have hreply := lt_replySize_quoted ((limit - 166) / 2)
  have hsent : (quoted ((limit - 166) / 2)).registration.Sendable limit :=
    (Call.sendable_iff hhigh _).2 (by omega)
  exact ⟨_, not_reads_back hlow maxConnections socket hsent rfl (by omega)⟩

/-- A description of 1024 quotes is registered under the least limit, and cannot be looked up. -/
theorem quotes_do_not_read_back :
    let socket := Path.ofText "/run/registry"
    let added := Client.overSocket socket 4096 (quoted 1024).registration
      (Client.ofStarted Store.backend .empty 4096 1)
    let got := (Client.overSocket socket 4096 (quoted 1024).lookup added.2).1
    added.1 = .ok (quoted 1024).version ∧
      ¬ ∃ text, got = .ok text ∧ ModelRecord.decode (Text.bytes text) = .ok (quoted 1024) := by
  have hrequest := requestSize_quoted 1024
  have hreply := lt_replySize_quoted 1024
  have hsent : (quoted 1024).registration.Sendable 4096 :=
    (Call.sendable_iff (by decide) _).2 (by omega)
  exact not_reads_back (Nat.le_refl _) 1 (Path.ofText "/run/registry") hsent rfl (by omega)

end ModelRegistry
