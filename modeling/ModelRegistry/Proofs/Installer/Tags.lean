import ModelRegistry.AppContext
import ModelRegistry.Proofs.Json.Lines
import ModelRegistry.Proofs.Store.Numbering
import ModelRegistry.Proofs.Store.OneName
import ModelRegistry.Proofs.Wire.Records

/-!
# Tags say where a registration comes from

The tag of a registration is a document of five members, printed over several lines, and the
registry keeps it as it keeps any text.  So it is escaped once where it is made and once more in the
text of the record that holds it.

Reading undoes both, whatever the names in the tag hold (`AppContext.parse_appInfo`,
`ModelRecord.textIn?_text`).  No quote in one name can pass for the end of it and forge the next
one, since two contexts that are printed alike are alike (`AppContext.appInfo_inj`).  And the tag
that is found under a version later on is the tag of the registration that returned this version, as
no version is returned twice (`Store.ReadBack.exists_record`).
-/

namespace ModelRegistry

open Text (utf8)

/-! ## Reading a tag -/

namespace AppContext

theorem written_toJson (c : AppContext) : Json.Written c.toJson (utf8 (c.toJson.writeLines 0)) := by
  refine Json.written_objectLines fun m hm => ?_
  have htext : ∃ t, m.2 = .text t := by
    simp only [List.mem_cons, List.not_mem_nil, or_false] at hm
    rcases hm with rfl | rfl | rfl | rfl | rfl <;> exact ⟨_, rfl⟩
  obtain ⟨t, ht⟩ := htext
  rw [ht]
  exact Json.written_textLines 1 t

/-- A tag is read as what it was made from. -/
theorem parse_appInfo (c : AppContext) : Json.parse (Text.bytes c.appInfo) = .ok c.toJson := by
  have hone : c.toJson.nesting = 1 := rfl
  have hnesting : c.toJson.nesting ≤ Json.depthLimit := Nat.le_trans (Nat.le_of_eq hone) (by decide)
  exact Json.eq_ok_of_toOption
    ((Json.value_means hnesting).document (Json.document_pretty c.written_toJson))

/-- Contexts with the same tag are the same. -/
theorem appInfo_inj {c d : AppContext} : c.appInfo = d.appInfo ↔ c = d := by
  refine ⟨fun h => ?_, congrArg appInfo⟩
  have hparsed := c.parse_appInfo
  rw [h, d.parse_appInfo] at hparsed
  cases c
  cases d
  simpa [toJson, eq_comm] using hparsed

/-- Contexts have the same tag exactly if their four texts are the same; to have no app is to have
one without a name. -/
theorem appInfo_of_eq_iff {pkgId pkgId' : String} {appId appId' : Option String}
    {resType resType' resVersion resVersion' : String} :
    (of pkgId appId resType resVersion).appInfo =
        (of pkgId' appId' resType' resVersion').appInfo ↔
      pkgId = pkgId' ∧ appId.getD "" = appId'.getD "" ∧ resType = resType' ∧
        resVersion = resVersion' := by
  rw [appInfo_inj, of, of, mk.injEq]

end AppContext

/-! ## Tags of records -/

/-- The text under a name in a document. -/
def Json.textIn? (name : String) (document : Bytes) : Option String :=
  match Json.parse document with
  | .ok (.object members) => (Json.field? members name).bind Json.text?
  | _ => none

namespace ModelRecord

theorem parse_text (r : ModelRecord) : Json.parse (Text.bytes r.text) = .ok r.toJson := by
  have hone : r.toJson.nesting = 1 := by
    rw [toJson, Json.nesting, Json.membersNesting_toMembers]
  exact Wire.parse_compact (Json.written_object (Json.written_toMembers Json.Kind.written_toJson _))
    (Nat.le_trans (Nat.le_of_eq hone) (by decide))

/-- The tag is found in the text of a record as it was given. -/
theorem textIn?_text (r : ModelRecord) :
    Json.textIn? "app_info" (Text.bytes r.text) = some r.appInfo := by
  rw [Json.textIn?, r.parse_text]
  rfl

end ModelRecord

namespace Store

/-- What a lookup answers, after any calls, for a version that was registered with a tag, as long as
its name has not used up its numbers. -/
inductive ReadBack (tag : String) : String → Prop
  | mk {cs : List Call} {name path description text : String} {active : Bool} {version : UInt32}
      (hcount : (run cs).1.registrations name < UInt32.size)
      (hregistered :
        ⟨.register name path active description tag, .ok version⟩ ∈ (run cs).1)
      (hfound : (backend (.get name version) (run cs).2).1 = .ok text) : ReadBack tag text

/-- It is the text of a record with this tag. -/
theorem ReadBack.exists_record {tag text : String} (h : ReadBack tag text) :
    ∃ r : ModelRecord, text = r.text ∧ r.appInfo = tag := by
  cases h with
  | @mk cs name path description text active version hcount hregistered hfound =>
    obtain ⟨r, hr, hversion, htext⟩ :=
      (get_eq_ok_iff (lineage_run hcount) version text).1 hfound
    obtain ⟨before, active', description', after, heq, -⟩ := (mem_newestFirst_run_iff hcount).1 hr
    have hmem : ⟨.register name r.path active' description' r.appInfo, .ok r.version⟩ ∈
        (run cs).1 := by
      rw [heq]
      exact List.mem_append_cons_self
    -- The record goes back to a registration of the same version, and there was only one.
    have hsame := eq_of_registered (reaches_run cs) hcount hmem hregistered
      (Exchange.registered?_eq_some_iff.2 ⟨_, _, _, _, rfl⟩)
      (Exchange.registered?_eq_some_iff.2 ⟨_, _, _, _, by rw [hversion]⟩)
    injection hsame with hcall
    injection hcall with _ _ _ _ htag
    exact ⟨r, htext, htag⟩

/-- A version that was registered is found until it is deleted. -/
theorem exists_readBack {cs : List Call} {name : String}
    (hcount : (run cs).1.registrations name < UInt32.size) {before after : History}
    {path description tag : String} {active : Bool} {version : UInt32}
    (hrun : (run cs).1 =
      before ++ ⟨.register name path active description tag, .ok version⟩ :: after)
    (hkept : ∀ e ∈ after, e.deleted? name ≠ some version) :
    ∃ text, (backend (.get name version) (run cs).2).1 = .ok text ∧ ReadBack tag text := by
  have hlive : (run cs).1.Live name version :=
    ⟨before, _, after, hrun, Exchange.registered?_eq_some_iff.2 ⟨_, _, _, _, rfl⟩, hkept⟩
  obtain ⟨r, hr, hversion⟩ := (History.live_iff_yields _ name version).1 hlive
  have hmem := (mem_newestFirst_run_iff hcount).2 hr
  have hfound := (get_eq_ok_iff (lineage_run hcount) version r.text).2 ⟨r, hmem, hversion, rfl⟩
  have hregistered : ⟨.register name path active description tag, .ok version⟩ ∈ (run cs).1 := by
    rw [hrun]
    exact List.mem_append_cons_self
  exact ⟨r.text, hfound, .mk hcount hregistered hfound⟩

/-- The tag in the answer is the one that was given. -/
theorem ReadBack.textIn? {tag text : String} (h : ReadBack tag text) :
    Json.textIn? "app_info" (Text.bytes text) = some tag := by
  obtain ⟨r, rfl, rfl⟩ := h.exists_record
  exact r.textIn?_text

end Store

/-- **Tags are faithful.**  The tag that is made for a package and an app, whatever their names and
the kind and version of the resources hold, is read as an object of five members in a fixed order,
which hold the mark of a resource package and the four texts.  So two tags are equal exactly if the
four texts are.  And this is so after a version was registered with the tag: until it is deleted it
is found, whatever else is called, and what is found holds the tag as it was given.  That takes room
for the numbers of the name that was registered, and of no other. -/
theorem tags_are_faithful (pkgId : String) (appId : Option String) (resType resVersion : String) :
    let tag := (AppContext.of pkgId appId resType resVersion).appInfo
    Json.parse (Text.bytes tag) = .ok (.object
      [("is_rpk", .text "T"), ("pkg_id", .text pkgId), ("app_id", .text (appId.getD "")),
        ("res_type", .text resType), ("res_version", .text resVersion)]) ∧
    (∀ (cs : List Call) (before after : History) (name path : String) (active : Bool)
      (description : String) (version : UInt32),
      (Store.run cs).1.registrations name < UInt32.size →
      (Store.run cs).1 =
        before ++ ⟨.register name path active description tag, .ok version⟩ :: after →
      (∀ e ∈ after, e.deleted? name ≠ some version) →
      ∃ text, (Store.backend (.get name version) (Store.run cs).2).1 = .ok text ∧
        Store.ReadBack tag text) ∧
    (∀ text, Store.ReadBack tag text →
      Json.textIn? "app_info" (Text.bytes text) = some tag ∧
        ∃ r, ModelRecord.decode (Text.bytes text) = .ok r ∧ r.appInfo = tag) ∧
    ∀ (pkgId' : String) (appId' : Option String) (resType' resVersion' : String),
      let tag' := (AppContext.of pkgId' appId' resType' resVersion').appInfo
      (tag = tag' ↔ pkgId = pkgId' ∧ appId.getD "" = appId'.getD "" ∧ resType = resType' ∧
        resVersion = resVersion') ∧
      ∀ text text', Store.ReadBack tag text → Store.ReadBack tag' text' →
        (Json.textIn? "app_info" (Text.bytes text) = Json.textIn? "app_info" (Text.bytes text') ↔
          pkgId = pkgId' ∧ appId.getD "" = appId'.getD "" ∧ resType = resType' ∧
            resVersion = resVersion') := by
  intro tag
  refine ⟨AppContext.parse_appInfo _, ?_, fun text hread => ⟨hread.textIn?, ?_⟩, ?_⟩
  · intro cs before after name path active description version hcount hrun hkept
    exact Store.exists_readBack hcount hrun hkept
  · obtain ⟨r, rfl, htag⟩ := hread.exists_record
    exact ⟨r, r.decode_text, htag⟩
  · intro pkgId' appId' resType' resVersion' tag'
    refine ⟨AppContext.appInfo_of_eq_iff, fun text text' hread hread' => ?_⟩
    rw [hread.textIn?, hread'.textIn?, Option.some_inj]
    exact AppContext.appInfo_of_eq_iff

/-- A package with quotes in its id, and no app: the tag is found after another version was deleted
and this one described anew. -/
theorem tags_are_faithful_behind_quotes :
    let tag := (AppContext.of "a\",\n\"app_id\": \"b" none "models" "1\\").appInfo
    let registration : Exchange := ⟨.register "m" "/b" true "old" tag, .ok (2 : UInt32)⟩
    let cs : List Call :=
      [.register "m" "/a" false "" "other", registration.call, .delete "m" 1 false,
        .describe "m" 2 "new"]
    (Store.run cs).1.registrations "m" < UInt32.size ∧
      (Store.run cs).1 =
        (Store.run cs).1.take 1 ++ registration :: (Store.run cs).1.drop 2 ∧
      (∀ e ∈ (Store.run cs).1.drop 2, e.deleted? "m" ≠ some 2) ∧
      ∃ text, (Store.backend (.get "m" 2) (Store.run cs).2).1 = .ok text ∧
        Store.ReadBack tag text ∧ Json.textIn? "app_info" (Text.bytes text) = some tag := by
  intro tag registration cs
  have hcount : (Store.run cs).1.registrations "m" < UInt32.size :=
    Nat.lt_of_le_of_lt (Store.registrations_run_le cs "m") (by decide)
  have hrun : (Store.run cs).1 =
      (Store.run cs).1.take 1 ++ registration :: (Store.run cs).1.drop 2 := rfl
  have hkept : ∀ e ∈ (Store.run cs).1.drop 2, e.deleted? "m" ≠ some 2 := by
    have hdrop : (Store.run cs).1.drop 2 =
        [⟨.delete "m" 1 false, .ok ()⟩, ⟨.describe "m" 2 "new", .ok ()⟩] := rfl
    rw [hdrop]
    decide
  obtain ⟨-, hfound, htag, -⟩ :=
    tags_are_faithful "a\",\n\"app_id\": \"b" none "models" "1\\"
  obtain ⟨text, hget, hread⟩ := hfound cs _ _ "m" "/b" true "old" 2 hcount hrun hkept
  exact ⟨hcount, hrun, hkept, text, hget, hread, (htag text hread).1⟩

end ModelRegistry
