import CommandPrompt.Command.Run
import CommandPrompt.Host.FileTree
import CommandPrompt.Proofs.Command.Switches
import CommandPrompt.Proofs.Document.Written
import CommandPrompt.Proofs.Session.Requests

/-!
# How commands end

A command that is understood is meant to end with a code, whatever it finds around it. The main
result says when it does (`Command.run_ends`). The code is then zero, one or two, and a world that
cannot be loaded gives the code two and a line that says so.

It is not always so. A command is broken off by a settings file that cannot be used, and by worlds
that it does not foresee (`Command.BreaksOff`). A file of the latter kind is a folder or lies behind
a file, has too long a name, is kept from the command by the system for some other reason, is nested
too deeply, or holds a stray (`World.IsUnforeseen`). Nothing else breaks a command off. In
particular no number that a line needs is without a value, because the worlds that commands work
with are loaded and so are built (`World.built_of_load`), and in a session of such a world every
line has an answer.
-/

namespace CommandPrompt

/-! ### Worlds of commands -/

namespace World

theorem built_addAll {world world' : World} (h : world.Built) {verbs : List VerbDraft}
    {nouns : List NounDraft} (hadd : world.addAll verbs nouns = .ok world') : world'.Built := by
  obtain ⟨withVerbs, hverbs, hnouns⟩ := bind_eq_ok_iff.mp hadd
  have hbuilt : withVerbs.Built := by
    refine invariant_of_foldlM_eq_ok (fun w w' hw draft _ hstep => ?_) h hverbs
    obtain ⟨verb, -, rfl⟩ := map_eq_ok_iff.mp hstep
    exact hw.addVerb draft
  refine invariant_of_foldlM_eq_ok (fun w w' hw draft _ hstep => ?_) hbuilt hnouns
  obtain ⟨noun, -, rfl⟩ := map_eq_ok_iff.mp hstep
  exact hw.addNoun draft

/-- A world that was loaded was built from the entities of its document. -/
theorem built_of_load {nesting : Json.Nesting} {file : Except FileProblem (List UInt8)}
    {world : World} (h : load nesting file = .ok world) : world.Built := by
  obtain ⟨bytes, -, h⟩ := bind_eq_ok_iff.mp h
  obtain ⟨written, -, h⟩ := bind_eq_ok_iff.mp h
  obtain ⟨value, -, h⟩ := bind_eq_ok_iff.mp h
  obtain ⟨document, hnormal, rfl⟩ := exists_document_of_ofJson h
  exact built_addAll (Built.empty document.title document.author) (Document.build_eq_ok hnormal)

/-- The file makes no world, and commands do not foresee why. -/
inductive IsUnforeseen (nesting : Json.Nesting) (file : Except FileProblem (List UInt8)) :
    Prop where
  /-- The file is a folder. -/
  | isFolder (h : file = .error .isFolder)
  /-- The path leads through something that is no folder. -/
  | notFolder (h : file = .error .notFolder)
  /-- The path or a step of it is too long. -/
  | nameTooLong (h : file = .error .nameTooLong)
  /-- The system has something else against it, as that it may not be read. -/
  | other {message : String} (h : file = .error (.other message))
  /-- The values of the text are nested too deeply. -/
  | tooDeep {bytes : List UInt8} {written : Text} {fault : Json.ReadFault} {what : String}
      (h : file = .ok bytes) (htext : Encoding.readAny bytes = .ok written)
      (hread : Json.read nesting written = .error fault) (hdeep : fault.problem = .tooDeep what)
  /-- The value has a stray. -/
  | stray {bytes : List UInt8} {value : Json} (h : file = .ok bytes)
      (hholds : Holds nesting bytes value) (hstray : value.HasStray)

variable {nesting : Json.Nesting} {file : Except FileProblem (List UInt8)}

/-- Loading a file that is not foreseen fails unexpectedly. -/
theorem IsUnforeseen.exists_load_eq_error (h : IsUnforeseen nesting file) :
    ∃ fault, load nesting file = .error fault ∧ fault.isExpected = false := by
  cases h with
  | isFolder h => exact h ▸ ⟨_, rfl, rfl⟩
  | notFolder h => exact h ▸ ⟨_, rfl, rfl⟩
  | nameTooLong h => exact h ▸ ⟨_, rfl, rfl⟩
  | other h => exact h ▸ ⟨_, rfl, rfl⟩
  | @tooDeep bytes written fault what h htext hread hdeep =>
    subst h
    refine ⟨.json fault, ?_, ?_⟩
    · show ofBytes nesting bytes = _
      unfold ofBytes
      rw [htext]
      show (Json.read nesting written).mapError LoadFault.json >>= ofJson = _
      rw [hread]
      rfl
    · obtain ⟨problem, line, column, offset⟩ := fault
      obtain rfl : problem = .tooDeep what := hdeep
      rfl
  | stray h hholds hstray =>
    subst h
    obtain ⟨fault, hfault⟩ := ofJson_of_hasStray hstray
    exact ⟨_, (load_of_holds hholds).trans hfault, rfl⟩

/-- No other loading fails unexpectedly. -/
theorem isUnforeseen_of_load {fault : LoadFault} (hload : load nesting file = .error fault)
    (hexpected : fault.isExpected = false) : IsUnforeseen nesting file := by
  -- the step of loading that fails tells what the file is
  rcases bind_eq_error_iff.mp hload with hfile | ⟨bytes, hfile, hbytes⟩
  · obtain ⟨problem, rfl, rfl⟩ := mapError_eq_error_iff.mp hfile
    cases problem with
    | missing => exact absurd hexpected (by decide)
    | isFolder => exact .isFolder rfl
    | notFolder => exact .notFolder rfl
    | nameTooLong => exact .nameTooLong rfl
    | zeroCharacter => exact absurd hexpected (by decide)
    | other message => exact .other rfl
  rw [mapError_eq_ok_iff] at hfile
  rcases bind_eq_error_iff.mp hbytes with htext | ⟨written, htext, hwritten⟩
  · obtain ⟨problem, -, rfl⟩ := mapError_eq_error_iff.mp htext
    exact absurd hexpected (by simp [LoadFault.isExpected])
  rw [mapError_eq_ok_iff] at htext
  rcases bind_eq_error_iff.mp hwritten with hread | ⟨value, hread, hvalue⟩
  · obtain ⟨⟨problem, line, column, offset⟩, htrouble, rfl⟩ := mapError_eq_error_iff.mp hread
    cases problem with
    | tooDeep what => exact .tooDeep hfile htext htrouble rfl
    | _ => exact absurd hexpected (by simp [LoadFault.isExpected])
  rw [mapError_eq_ok_iff] at hread
  refine .stray hfile ⟨written, htext, hread⟩ ?_
  by_contra hstray
  rcases ofJson_of_not_hasStray hstray with ⟨world, hok⟩ | hobject | ⟨findings, hinvalid⟩
  · exact absurd (hvalue.symm.trans hok) (by simp)
  · obtain rfl : fault = .notObject := Except.error.inj (hvalue.symm.trans hobject)
    exact absurd hexpected (by decide)
  · obtain rfl : fault = .invalid findings := Except.error.inj (hvalue.symm.trans hinvalid)
    exact absurd hexpected (by simp [LoadFault.isExpected])

end World

/-- The world at a path, as it is found on a host. -/
def Host.world (host : Host) (path : Path) : Except LoadFault World :=
  World.load host.nesting (host.file path)

namespace Command

/-! ### What breaks commands off -/

/-- What a command says of the number of suggestions. Listing words does not ask for it. -/
def limitSetting : Command → NumberSetting
  | prompt _ _ options => options.maxSuggestions
  | vocabulary _ => .absent

/-- The number of suggestions that a command asks for, if it does, is at least one. -/
def HasLimit (command : Command) : Prop :=
  command.limitSetting = .absent ∨ ∃ n, command.limitSetting = .given n ∧ 1 ≤ n

theorem not_hasLimit_of_lt {command : Command} {n : Int} (h : command.limitSetting = .given n)
    (hn : n < 1) : ¬command.HasLimit := by
  rintro (habsent | ⟨m, hm, hle⟩)
  · exact absurd (h.symm.trans habsent) (by simp)
  · obtain rfl := NumberSetting.given.inj (h.symm.trans hm)
    omega

/-- The number of suggestions is too small, or it is right. -/
theorem limit_cases {command : Command} (h : command.options.HasNumbers) :
    (∃ n, command.limitSetting = .given n ∧ n < 1) ∨ command.HasLimit := by
  cases command with
  | vocabulary options => exact Or.inr (Or.inl rfl)
  | prompt withGroups line options =>
    cases hlimit : options.maxSuggestions with
    | absent => exact Or.inr (Or.inl hlimit)
    | empty => exact absurd hlimit h.maxSuggestions
    | given n =>
      rcases lt_or_ge n 1 with hn | hn
      · exact Or.inl ⟨n, hlimit, hn⟩
      · exact Or.inr (Or.inr ⟨n, hlimit, hn⟩)

/-- **What breaks a command off.** -/
inductive BreaksOff (host : Host) (command : Command) : Prop where
  /-- The settings file cannot be used. -/
  | settings {fault : SettingsFault} (h : host.settings host.environment = .error fault)
  /-- The world is in a file that is not foreseen. -/
  | world {environment : Environment} (hsettle : settle host = .ok environment)
      (hlimit : command.HasLimit)
      (hfile : World.IsUnforeseen host.nesting (host.file (command.worldPath host environment)))

theorem BreaksOff.of_settle {host : Host} {command : Command} {crash : Crash}
    (h : settle host = .error crash) : BreaksOff host command := by
  obtain ⟨fault, hfault, -⟩ := mapError_eq_error_iff.mp h
  exact .settings hfault

/-- In a settled environment it is the world that breaks a command off. -/
theorem breaksOff_iff_of_settle {host : Host} {environment : Environment} {command : Command}
    (hsettle : settle host = .ok environment) :
    BreaksOff host command ↔ command.HasLimit ∧
      World.IsUnforeseen host.nesting (host.file (command.worldPath host environment)) := by
  refine ⟨fun h => ?_, fun ⟨hlimit, hfile⟩ => .world hsettle hlimit hfile⟩
  cases h with
  | settings hfault =>
    have hok := mapError_eq_ok_iff.mp hsettle
    exact absurd (hfault.symm.trans hok) (by simp)
  | world hsettle' hlimit hfile =>
    obtain rfl := Except.ok.inj (hsettle'.symm.trans hsettle)
    exact ⟨hlimit, hfile⟩

/-! ### Steps of a run -/

/-- What is printed where a world cannot be loaded. -/
def notLoaded (path : Path) (fault : LoadFault) : Printed :=
  failed ("Could not load world " ++ String.ofList path.toText ++ ": " ++ fault.message path)

/-- What a command does with its world, once it has one. -/
def proceed (environment : Environment) (world : World) : Command → Except Crash Printed
  | .vocabulary _ => .ok { code := 0, output := (vocabularyReport world).flatMap (· ++ ['\n']) }
  | .prompt withGroups line options => do
    let limit ← options.maxSuggestions.number? ⟨"list", "int"⟩
    let caret ← options.caret.number? ⟨"int", "list"⟩
    let session : Session := { world, limit := .whole (limit.getD (Settings.limit environment)) }
    let answer ← (session.suggest (.withCaret line caret)).2.mapError .arithmetic
    return { code := exitCode answer, output := report withGroups options answer ++ ['\n'] }

/-- The number of suggestions that switches or an environment ask for. -/
def Options.limitIn (options : Options) (environment : Environment) : Int :=
  match options.maxSuggestions with
  | .given n => n
  | _ => Settings.limit environment

section

variable {host : Host} {command : Command} (environment : Environment)

theorem execute_of_limit_lt {n : Int} (h : command.limitSetting = .given n) (hn : n < 1) :
    execute host environment command = .ok (failed "--max-suggestions must be at least 1.") := by
  cases command with
  | vocabulary options => exact absurd h (by simp [limitSetting])
  | prompt withGroups line options =>
    unfold execute
    dsimp only
    rw [show options.maxSuggestions = .given n from h]
    show (if (some n).any (· < 1) then _ else _) = _
    rw [if_pos (by simpa using hn)]
    rfl

/-- A number of suggestions that is right is taken, or that of the environment where none is given.
-/
theorem exists_number_of_hasLimit {withGroups : Bool} {line : Text} {options : Options}
    (h : HasLimit (.prompt withGroups line options)) :
    ∃ limit, options.maxSuggestions.number? ⟨"list", "int"⟩ = .ok limit ∧
      limit.any (· < 1) = false ∧
      limit.getD (Settings.limit environment) = options.limitIn environment := by
  unfold Options.limitIn
  rcases h with h | ⟨n, h, hn⟩
  · rw [show options.maxSuggestions = .absent from h]
    exact ⟨none, rfl, rfl, rfl⟩
  · rw [show options.maxSuggestions = .given n from h]
    exact ⟨some n, rfl, by simpa using hn, rfl⟩

/-- A command whose number of suggestions is right loads its world and goes on with it. -/
theorem execute_eq_withWorld (h : command.HasLimit) :
    execute host environment command =
      withWorld host (command.worldPath host environment) fun world =>
        proceed environment world command := by
  cases command with
  | vocabulary options => rfl
  | prompt withGroups line options =>
    obtain ⟨limit, hnumber, hnot, -⟩ := exists_number_of_hasLimit environment h
    unfold execute proceed
    dsimp only
    rw [hnumber]
    show (if limit.any (· < 1) then _ else _) = _
    rw [hnot]
    rfl

theorem withWorld_of_ok {path : Path} {world : World} (h : host.world path = .ok world)
    (next : World → Except Crash Printed) : withWorld host path next = next world := by
  unfold withWorld
  rw [show World.load host.nesting (host.file path) = .ok world from h]

theorem withWorld_of_error {path : Path} {fault : LoadFault} (h : host.world path = .error fault)
    (next : World → Except Crash Printed) :
    withWorld host path next =
      if fault.isExpected then .ok (notLoaded path fault) else .error (.load path fault) := by
  unfold withWorld
  rw [show World.load host.nesting (host.file path) = .error fault from h]
  rfl

/-- **With a built world every line is answered**, and the answer is printed. -/
theorem exists_proceed_prompt {world : World} (hworld : world.Built) {withGroups : Bool}
    {line : Text} {options : Options} (hlimit : HasLimit (.prompt withGroups line options))
    {caret : Option Int} (hcaret : options.caret.number? ⟨"int", "list"⟩ = .ok caret) :
    ∃ answer,
      (Session.suggest { world, limit := .whole (options.limitIn environment) }
        (.withCaret line caret)).2 = .ok answer ∧
      proceed environment world (.prompt withGroups line options) = .ok {
        code := exitCode answer, output := report withGroups options answer ++ ['\n'] } := by
  have hsound : Session.IsSound { world, limit := .whole (options.limitIn environment) } :=
    ⟨hworld, _, rfl⟩
  obtain ⟨answer, isEnabled, hsuggest⟩ := Session.exists_suggest_eq hsound (.withCaret line caret)
  refine ⟨answer, by rw [hsuggest], ?_⟩
  obtain ⟨limit, hnumber, -, hvalue⟩ := exists_number_of_hasLimit environment hlimit
  unfold proceed
  dsimp only
  rw [hnumber, hcaret]
  show (Session.suggest { world, limit := .whole (limit.getD (Settings.limit environment)) }
    (.withCaret line caret)).2.mapError Crash.arithmetic >>= _ = _
  rw [hvalue, hsuggest]
  rfl

theorem exitCode_mem (answer : Answer) : exitCode answer ∈ [0, 1, 2] := by
  unfold exitCode
  split
  · decide
  · split <;> decide

/-- With a built world nothing breaks a command off. -/
theorem exists_proceed_eq_ok {world : World} (hworld : world.Built) (hlimit : command.HasLimit)
    (hnumbers : command.options.HasNumbers) :
    ∃ printed, proceed environment world command = .ok printed ∧ printed.code ∈ [0, 1, 2] := by
  cases command with
  | vocabulary options => exact ⟨_, rfl, List.mem_cons_self⟩
  | prompt withGroups line options =>
    obtain ⟨caret, hcaret⟩ : ∃ caret, options.caret.number? ⟨"int", "list"⟩ = .ok caret := by
      cases h : options.caret with
      | absent => exact ⟨none, rfl⟩
      | empty => exact absurd h hnumbers.caret
      | given n => exact ⟨some n, rfl⟩
    obtain ⟨answer, -, hproceed⟩ := exists_proceed_prompt environment hworld hlimit hcaret
    exact ⟨_, hproceed, exitCode_mem answer⟩

/-- A file that cannot be loaded, but is foreseen, is reported. -/
theorem execute_of_load_error (hlimit : command.HasLimit) {fault : LoadFault}
    (hload : host.world (command.worldPath host environment) = .error fault)
    (hforeseen :
      ¬World.IsUnforeseen host.nesting (host.file (command.worldPath host environment))) :
    execute host environment command =
      .ok (notLoaded (command.worldPath host environment) fault) := by
  have hexpected : fault.isExpected = true := by
    by_contra hnot
    exact hforeseen (World.isUnforeseen_of_load hload (Bool.not_eq_true _ ▸ hnot))
  rw [execute_eq_withWorld environment hlimit, withWorld_of_error hload, if_pos hexpected]

variable {environment}

/-- In a settled environment a command that is understood is executed. -/
theorem run_eq_execute (hsettle : settle host = .ok environment) {arguments : List Text}
    (hread : Command.read arguments = .ok command) :
    run host arguments = execute host environment command := by
  unfold run runBy
  rw [hsettle, show readBy .kept arguments = .ok command from hread]
  rfl

/-- **How a command ends in its environment.** It is broken off just for the reasons that are
listed, and otherwise ends with one of three codes. -/
theorem execute_ends (hsettle : settle host = .ok environment)
    (hnumbers : command.options.HasNumbers) :
    (BreaksOff host command ∧ ∃ crash, execute host environment command = .error crash) ∨
      (¬BreaksOff host command ∧
        ∃ printed, execute host environment command = .ok printed ∧ printed.code ∈ [0, 1, 2]) := by
  rw [breaksOff_iff_of_settle hsettle]
  -- the limit is looked at first, and then the world is loaded
  rcases limit_cases hnumbers with ⟨n, hn, hlt⟩ | hlimit
  · exact Or.inr ⟨fun h => not_hasLimit_of_lt hn hlt h.1, _,
      execute_of_limit_lt environment hn hlt, by decide⟩
  rw [and_iff_right hlimit]
  cases hworld : host.world (command.worldPath host environment) with
  | ok world =>
    rw [execute_eq_withWorld environment hlimit, withWorld_of_ok hworld]
    refine Or.inr ⟨fun hfile => ?_,
      exists_proceed_eq_ok environment (World.built_of_load hworld) hlimit hnumbers⟩
    obtain ⟨fault, hload, -⟩ := hfile.exists_load_eq_error
    exact absurd (hload.symm.trans hworld) (by simp)
  | error fault =>
    by_cases hfile :
        World.IsUnforeseen host.nesting (host.file (command.worldPath host environment))
    · obtain ⟨fault', hload, hexpected⟩ := hfile.exists_load_eq_error
      obtain rfl := Except.error.inj (hload.symm.trans hworld)
      refine Or.inl ⟨hfile, .load (command.worldPath host environment) fault', ?_⟩
      rw [execute_eq_withWorld environment hlimit, withWorld_of_error hworld, hexpected]
      rfl
    · exact Or.inr ⟨hfile, _, execute_of_load_error environment hlimit hworld hfile,
        List.mem_of_elem_eq_true rfl⟩

end

/-- **A command that is understood ends with a code, unless it is broken off.** The code is zero,
one or two. If the world cannot be loaded, the code is two, there is no output, and a line says why.
-/
theorem run_ends (host : Host) {arguments : List Text} {command : Command}
    (h : Command.read arguments = .ok command) :
    ((∃ crash, run host arguments = .error crash) ↔ BreaksOff host command) ∧
      (∀ printed, run host arguments = .ok printed → printed.code ∈ [0, 1, 2]) ∧
      ∀ environment path fault, settle host = .ok environment → command.HasLimit →
        command.worldPath host environment = path → host.world path = .error fault →
        ¬World.IsUnforeseen host.nesting (host.file path) →
        ∃ printed message, run host arguments = .ok printed ∧ printed.code = 2 ∧
          printed.output = [] ∧ printed.message = some message ∧
          ("Could not load world " ++ String.ofList path.toText ++ ": " ++
            fault.message path).toList <+: message.toList := by
  cases hsettle : settle host with
  | error crash =>
    have hrun : run host arguments = .error crash := by
      unfold run runBy
      rw [hsettle]
      rfl
    rw [hrun]
    refine ⟨iff_of_true ⟨crash, rfl⟩ (.of_settle hsettle), ?_, ?_⟩
    · intro printed hprinted
      exact absurd hprinted (by simp)
    · intro environment path fault henvironment
      exact absurd henvironment (by simp)
  | ok environment =>
    have hnumbers := hasNumbers_of_read h
    rw [run_eq_execute hsettle h]
    refine ⟨?_, ?_, ?_⟩
    · rcases execute_ends hsettle hnumbers with ⟨hbreaks, hcrash⟩ | ⟨hnot, printed, hprinted, -⟩
      · exact iff_of_true hcrash hbreaks
      · refine iff_of_false ?_ hnot
        rintro ⟨crash, hcrash⟩
        exact absurd (hprinted.symm.trans hcrash) (by simp)
    · intro printed hprinted
      rcases execute_ends hsettle hnumbers with ⟨-, crash, hcrash⟩ | ⟨-, printed', hprinted', hcode⟩
      · exact absurd (hprinted.symm.trans hcrash) (by simp)
      · obtain rfl := Except.ok.inj (hprinted.symm.trans hprinted')
        exact hcode
    · rintro _ _ fault ⟨⟩ hlimit rfl hload hforeseen
      exact ⟨_, _, execute_of_load_error environment hlimit hload hforeseen, rfl, rfl, rfl,
        List.prefix_refl _⟩

/-- The path of a list. -/
def listPath : Path := ⟨.workingFolder, ["list.json".toList]⟩

/-- A host with no settings and one file, which holds a list and no object. -/
def listHost : Host where
  environment := []
  file := FileTree.read ⟨[(listPath.steps, Text.utf8 "[]".toList)]⟩
  packaged := ⟨.workingFolder, ["data".toList]⟩

/-- The world in the list is refused, with the code two and a line that says why. -/
theorem run_ends_list :
    Command.read (["suggest", "take", "--world", "list.json"].map String.toList) =
        .ok (.prompt false "take".toList { world := some listPath }) ∧
      ∃ printed message,
        run listHost (["suggest", "take", "--world", "list.json"].map String.toList) =
          .ok printed ∧
        printed.code = 2 ∧ printed.output = [] ∧ printed.message = some message ∧
        "Could not load world list.json: World file list.json must contain a JSON object".toList <+:
          message.toList := by
  have hread : Command.read (["suggest", "take", "--world", "list.json"].map String.toList) =
      .ok (.prompt false "take".toList { world := some listPath }) := by
    decide +kernel
  have hload : listHost.world listPath = .error .notObject := by
    have hfile : listHost.file listPath = .ok (Text.utf8 "[]".toList) := by decide +kernel
    have hholds : Holds .usual (Text.utf8 "[]".toList) (.array []) := by
      refine ⟨"[]".toList, ?_, by with_unfolding_all rfl⟩
      exact Encoding.readAny_utf8 (Or.inr rfl) (by decide) (by decide) []
    show World.load .usual (listHost.file _) = _
    rw [hfile, World.load_of_holds hholds]
    rfl
  have hforeseen : ¬World.IsUnforeseen listHost.nesting (listHost.file listPath) := by
    intro hfile
    obtain ⟨fault, hfault, hexpected⟩ := hfile.exists_load_eq_error
    obtain rfl := Except.error.inj (hload.symm.trans hfault)
    exact absurd hexpected (by decide)
  have hline : "Could not load world " ++ String.ofList listPath.toText ++ ": " ++
        LoadFault.message listPath .notObject =
      "Could not load world list.json: World file list.json must contain a JSON object" := by
    decide +kernel
  obtain ⟨-, -, hreport⟩ := run_ends listHost hread
  obtain ⟨printed, message, hrun, hcode, houtput, hmessage, hprefix⟩ :=
    hreport [] listPath .notObject rfl (Or.inl rfl) rfl hload hforeseen
  rw [hline] at hprefix
  exact ⟨hread, printed, message, hrun, hcode, houtput, hmessage, hprefix⟩

/-- **A folder in the place of a world breaks a command off.** So not every command that is
understood ends with a code. -/
theorem exists_run_folder :
    run listHost (["suggest", "look", "--world", "."].map String.toList) =
        .error (.load ⟨.workingFolder, []⟩ (.file .isFolder)) ∧
      ¬∀ (host : Host) (arguments : List Text) (command : Command),
        Command.read arguments = .ok command → ∃ printed, run host arguments = .ok printed := by
  have hrun : run listHost (["suggest", "look", "--world", "."].map String.toList) =
      .error (.load ⟨.workingFolder, []⟩ (.file .isFolder)) := by
    decide +kernel
  refine ⟨hrun, fun hall => ?_⟩
  have hread : Command.read (["suggest", "look", "--world", "."].map String.toList) =
      .ok (.prompt false "look".toList { world := some ⟨.workingFolder, []⟩ }) := by
    decide +kernel
  obtain ⟨printed, hprinted⟩ := hall listHost _ _ hread
  exact absurd (hrun.symm.trans hprinted) (by simp)

end Command

end CommandPrompt
