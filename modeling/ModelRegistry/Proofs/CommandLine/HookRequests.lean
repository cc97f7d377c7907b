import ModelRegistry.Program

/-!
# Requests on the command line

`HookRequest.SpelledBy` says which arguments ask for a hook: its name in any case, the id of a
package and perhaps that of an application, in this order, with keys and values behind flags
anywhere among them.  The arguments that are read as a request are exactly those that spell it
(`HookRequest.ofArgs_eq_ok_iff`).  The main statement, `hook_requests_by_grammar`, is about what the
program then does: it runs the hook for these arguments, and for all others it only says what is
wrong.
-/

namespace ModelRegistry

/-! ## Keys and values -/

theorem Text.cutChars_singleton_cons (c d : Char) (s : List Char) :
    cutChars [c] (d :: s) =
      if c = d then some ([], s)
      else (cutChars [c] s).map fun parts => (d :: parts.1, parts.2) := by
  simp [cutChars]

/-- A text is cut at a character into what comes before its first occurrence and what comes after.
-/
theorem Text.cutChars_singleton_iff {c : Char} {s front rest : List Char} :
    cutChars [c] s = some (front, rest) ↔ c ∉ front ∧ s = front ++ c :: rest := by
  induction s generalizing front with
  | nil => simp [cutChars]
  | cons d s ih =>
    rw [cutChars_singleton_cons]
    split
    · next hd =>
      subst hd
      cases front with
      | nil => simp
      | cons e front => simp +contextual
    · next hd =>
      cases front with
      | nil => simp [Ne.symm hd]
      | cons e front =>
        have hcut : (cutChars [c] s).map (fun parts => (d :: parts.1, parts.2)) =
            some (e :: front, rest) ↔ d = e ∧ cutChars [c] s = some (front, rest) := by
          cases cutChars [c] s <;> simp [Prod.ext_iff, and_assoc]
        rw [hcut, ih]
        constructor
        · rintro ⟨rfl, hfront, rfl⟩
          exact ⟨by simp [hd, hfront], rfl⟩
        · rintro ⟨hfront, heq⟩
          cases heq
          exact ⟨rfl, fun hmem => hfront (List.mem_cons_of_mem _ hmem), rfl⟩

/-- A text holds a key and a value if there is an equals sign in it, and the first one ends the key.
-/
theorem Text.cut?_equals_iff {t key value : String} :
    cut? "=" t = some (key, value) ↔ '=' ∉ key.toList ∧ t = key ++ "=" ++ value := by
  have hmarker : "=".toList = ['='] := rfl
  have htext : t = key ++ "=" ++ value ↔ t.toList = key.toList ++ '=' :: value.toList := by
    rw [← String.toList_inj]
    simp [hmarker]
  rw [htext, ← cutChars_singleton_iff, cut?, hmarker, Option.map_eq_some_iff]
  constructor
  · rintro ⟨parts, hparts, heq⟩
    cases heq
    simpa using hparts
  · intro hparts
    exact ⟨_, hparts, by simp⟩

/-! ## The arguments of a request -/

namespace HookRequest

/-- Words, none of which is the flag, with keys and values behind flags anywhere among them. -/
inductive Mixes : List String → List (String × String) → List String → Prop
  | nil : Mixes [] [] []
  | word {words : List String} {items : List (String × String)} {args : List String} {word : String}
      (hword : word ≠ metadataFlag) (rest : Mixes words items args) :
      Mixes (word :: words) items (word :: args)
  | item {words : List String} {items : List (String × String)} {args : List String}
      {key value : String} (hkey : '=' ∉ key.toList) (rest : Mixes words items args) :
      Mixes words ((key, value) :: items) (metadataFlag :: (key ++ "=" ++ value) :: args)

theorem sort?_word {word : String} (h : word ≠ metadataFlag) (args : List String) :
    sort? (word :: args) = (sort? args).map fun sorted => (word :: sorted.1, sorted.2) := by
  cases args with
  | nil => simp [sort?, h]
  | cons next rest =>
    rw [sort?, if_neg h]
    cases sort? (next :: rest) <;> rfl

theorem sort?_flag (next : String) (args : List String) :
    sort? (metadataFlag :: next :: args) = (Text.cut? "=" next).bind fun item =>
      (sort? args).map fun sorted => (sorted.1, item :: sorted.2) := by
  rw [sort?, if_pos rfl]
  cases Text.cut? "=" next with
  | none => rfl
  | some item => cases sort? args <;> rfl

/-- The arguments are told apart in the one way in which they can be. -/
theorem sort?_eq_some_iff {args words : List String} {items : List (String × String)} :
    sort? args = some (words, items) ↔ Mixes words items args := by
  constructor
  · intro h
    -- The arguments are used up one or two at a time; only a flag at their very end is stuck.
    induction args using sort?.induct generalizing words items with
    | case1 =>
      cases h
      exact .nil
    | case2 => simp [sort?] at h
    | case3 word hword =>
      rw [sort?_word hword] at h
      cases h
      exact .word hword .nil
    | case4 next rest ih =>
      rw [sort?_flag] at h
      obtain ⟨item, hitem, hmap⟩ := Option.bind_eq_some_iff.1 h
      obtain ⟨sorted, hsorted, heq⟩ := Option.map_eq_some_iff.1 hmap
      cases heq
      obtain ⟨hkey, rfl⟩ := Text.cut?_equals_iff.1 hitem
      exact .item hkey (ih hsorted)
    | case5 word next rest hword ih =>
      rw [sort?_word hword] at h
      obtain ⟨sorted, hsorted, heq⟩ := Option.map_eq_some_iff.1 h
      cases heq
      exact .word hword (ih hsorted)
  · intro h
    induction h with
    | nil => rfl
    | word hword _ ih => rw [sort?_word hword, ih, Option.map_some]
    | item hkey _ ih =>
      rw [sort?_flag, Text.cut?_equals_iff.2 ⟨hkey, rfl⟩, Option.bind_some, ih, Option.map_some]

/-- The arguments ask for the hook by its name in any case, and give it what it is to work on. -/
def SpelledBy (request : HookRequest) (args : List String) : Prop :=
  ∃ name, Text.lower name = Text.lower request.hook.name ∧
    Mixes (name :: request.args.pkgId :: request.args.appId.toList) request.args.metadata args

end HookRequest

/-- A hook is known by the letters of its name. -/
theorem Hook.ofName?_eq_some_iff {name : String} {hook : Hook} :
    ofName? name = some hook ↔ Text.lower name = Text.lower hook.name := by
  constructor
  · intro h
    rw [ofName?] at h
    have hsame := List.find?_some h
    exact (eq_of_beq hsame).symm
  · intro h
    -- So the name can be taken for that of the hook, and no two hooks have the same letters.
    have hname : ofName? name = ofName? hook.name := by simp only [ofName?, Text.sameLetters, h]
    rw [hname]
    cases hook <;> decide

namespace HookRequest

theorem of_eq_ok_iff {name pkgId : String} {appId : Option String}
    {metadata : List (String × String)} {request : HookRequest} :
    of name pkgId appId metadata = .ok request ↔
      Text.lower name = Text.lower request.hook.name ∧ request.args = ⟨pkgId, appId, metadata⟩ := by
  rw [← Hook.ofName?_eq_some_iff, of]
  obtain ⟨hook, args⟩ := request
  cases Hook.ofName? name <;> simp [eq_comm]

/-- The arguments that are read as a request are those that spell it. -/
theorem ofArgs_eq_ok_iff {args : List String} {request : HookRequest} :
    ofArgs args = .ok request ↔ request.SpelledBy args := by
  constructor
  · intro h
    simp only [ofArgs] at h
    split at h
    · cases h
    · next name pkgId metadata hsort =>
      obtain ⟨hname, hargs⟩ := of_eq_ok_iff.1 h
      exact ⟨name, hname, by simpa [hargs] using sort?_eq_some_iff.1 hsort⟩
    · next name pkgId appId metadata hsort =>
      obtain ⟨hname, hargs⟩ := of_eq_ok_iff.1 h
      exact ⟨name, hname, by simpa [hargs] using sort?_eq_some_iff.1 hsort⟩
    · cases h
  · rintro ⟨name, hname, hmix⟩
    rw [ofArgs, sort?_eq_some_iff.2 hmix]
    cases happ : request.args.appId with
    | none => exact of_eq_ok_iff.2 ⟨hname, by rw [← happ]⟩
    | some appId => exact of_eq_ok_iff.2 ⟨hname, by rw [← happ]⟩

/-- Where the flags stand among the words makes no difference. -/
theorem Mixes.ofArgs_congr {words : List String} {items : List (String × String)}
    {args args' : List String} (h : Mixes words items args) (h' : Mixes words items args') :
    ofArgs args' = ofArgs args := by
  rw [ofArgs, ofArgs, sort?_eq_some_iff.2 h, sort?_eq_some_iff.2 h']

end HookRequest

/-! ## What the program does -/

namespace CommandLine

variable {σ : Type} {source : PackageSource} {files : Files} {backend : Backend σ}
  {args : List String}

theorem run_runPlugin_of_ok {request : HookRequest} (h : HookRequest.ofArgs args = .ok request)
    (s : σ) :
    (runPlugin source files backend args).run s =
      let hook := (request.hook.run (Installer.plugin source files backend) request.args).run s
      ⟨⟨if hook.value = 0 then .success else .failure, "", ""⟩, hook.state, hook.events⟩ := by
  simp only [runPlugin, h, Action.run_bind, Action.run_pure, List.append_nil]

theorem runPlugin_of_error {e : UsageError} (h : HookRequest.ofArgs args = .error e) :
    runPlugin source files backend args = pure (.misuse e) := by
  simp only [runPlugin, h]

/-- **What comes of the arguments of `plugin`.**  They are read as a request exactly if they spell
it, and where the flags stand among the words makes no difference.

The hook of a request is run with the arguments of the request, and the exit code says whether it
returned zero.  For arguments that spell no request there is another exit code, and nothing is done:
no package is looked up, and neither a backend nor a daemon is called. -/
theorem hook_requests_by_grammar (args : List String) :
    (∀ request, HookRequest.ofArgs args = .ok request ↔ request.SpelledBy args) ∧
    (∀ words items args', HookRequest.Mixes words items args →
      HookRequest.Mixes words items args' →
        ∀ {σ : Type} (source : PackageSource) (files : Files) (backend : Backend σ),
          runPlugin source files backend args' = runPlugin source files backend args) ∧
    (∀ request : HookRequest, request.SpelledBy args →
      ∀ {σ : Type} (source : PackageSource) (files : Files) (backend : Backend σ) (s : σ),
        let hook := (request.hook.run (Installer.plugin source files backend) request.args).run s
        let o := (runPlugin source files backend args).run s
        o.state = hook.state ∧ o.events = hook.events ∧
          o.value.code.number = if hook.value = 0 then 0 else 1) ∧
    ((∀ request : HookRequest, ¬ request.SpelledBy args) →
      ∃ e : UsageError, (Finish.misuse e).code.number = 2 ∧
        (∀ {σ : Type} (source : PackageSource) (files : Files) (backend : Backend σ) (s : σ),
          (runPlugin source files backend args).run s = ⟨.misuse e, s, []⟩) ∧
        ∀ {τ : Type} (machine : Peer τ) (settings : Settings) (files : Files) (peer : τ),
          (Program.runCommand machine settings files (.plugin args)).run peer =
            ⟨.misuse e, peer, []⟩) := by
  refine ⟨fun request => HookRequest.ofArgs_eq_ok_iff, ?placement, ?spelled, ?misspelled⟩
  case placement =>
    intro words items args' h h' σ source files backend
    rw [runPlugin, runPlugin, h.ofArgs_congr h']
  case spelled =>
    intro request hspelled σ source files backend s hook o
    have ho : o = ⟨⟨if hook.value = 0 then .success else .failure, "", ""⟩, hook.state,
        hook.events⟩ := run_runPlugin_of_ok (HookRequest.ofArgs_eq_ok_iff.2 hspelled) s
    rw [ho]
    refine ⟨rfl, rfl, ?_⟩
    split <;> rfl
  case misspelled =>
    intro hnone
    cases hargs : HookRequest.ofArgs args with
    | ok request => exact absurd (HookRequest.ofArgs_eq_ok_iff.1 hargs) (hnone request)
    | error e =>
      refine ⟨e, rfl, fun source files backend s => ?_, fun machine settings files peer => ?_⟩
      · rw [runPlugin_of_error hargs, Action.run_pure]
      · simp only [Program.runCommand, Program.asClient, runPlugin_of_error hargs, Action.run,
          Client.new]
        rfl

/-- A flag can stand first, and only the first equals sign behind it ends a key. -/
example : HookRequest.ofArgs ["--metadata", "a=b=c", "Undo", "org.x", "--metadata", "=", "app"] =
    .ok ⟨.undo, "org.x", some "app", [("a", "b=c"), ("", "")]⟩ :=
  rfl

end CommandLine

end ModelRegistry
