import CommandPrompt.Proofs.Command.Ends
import CommandPrompt.Proofs.Command.Lines
import CommandPrompt.Proofs.Command.Payload
import CommandPrompt.Proofs.Context.LetterCase
import CommandPrompt.Proofs.Context.Suggestions
import CommandPrompt.Proofs.Number.Monotone

/-!
# All forms of a report

The same question can be asked with or without groups, and its report wanted in lines of text or in
JSON, on one line or on many. The main result is that all these forms agree
(`Command.reports_agree`). They end with one code, which tells what the line came to. The offers on
the lines are what the suggestions in JSON are displayed with, in their order, and no more than were
asked for; where the line was misread there are none, and both forms give the same error. Groups are
told in JSON just if they are asked for and the code is zero.

The forms agree because each of them tells what came of the line, a context or a misreading, and
nothing else: a plain report does (`Command.tellsPlainly_plainReport`), and so does one in JSON
after it is read back (`Command.tellsInJson_answerJson`).
-/

namespace CommandPrompt.Command

/-! ### What comes of a line -/

/-- The code of a command whose line came to this: two if the vocabulary is at fault, one if the
line was misread otherwise. -/
def codeOf : Except Misreading Context → Nat
  | .ok _ => 0
  | .error misreading => if misreading.isFatal then 2 else 1

/-- What is displayed to someone whose line came to this. -/
def displaysOf : Except Misreading Context → List Text
  | .ok context => context.suggestions.map Suggestion.display
  | .error _ => []

/-- The answer to a line that came to this. -/
def answerOf (line : Line) : Except Misreading Context → Answer
  | .ok context => ⟨line.clean, .understood context⟩
  | .error misreading => ⟨line.clean, .misread misreading⟩

theorem exitCode_answerOf (line : Line) (outcome : Except Misreading Context) :
    exitCode (answerOf line outcome) = codeOf outcome := by
  cases outcome with
  | ok context => rfl
  | error misreading => cases misreading <;> rfl

theorem suggestions_answerOf (line : Line) (outcome : Except Misreading Context) :
    (answerOf line outcome).suggestions.map Suggestion.display = displaysOf outcome := by
  cases outcome <;> rfl

/-- A plain report of what a line came to. -/
structure TellsPlainly (outcome : Except Misreading Context) (output : Text) : Prop where
  offers : offersOn output = displaysOf outcome
  error : ∀ misreading, outcome = .error misreading →
    "  (no suggestions: ".toList ++ misreading.message.toList ++ [')'] ∈ output.splitOn '\n'

/-- A JSON report of what a line came to. -/
structure TellsInJson (world : World) (withGroups : Bool) (outcome : Except Misreading Context)
    (value : Json) : Prop where
  suggestions : ∃ items, value.field? "suggestions" = some (.array items) ∧
    items.map (·.field? "display") = (displaysOf outcome).map fun display => some (.string display)
  error : value.field? "error" = some (match outcome with
    | .ok _ => .null
    | .error misreading => .ofString misreading.message)
  /-- There are groups just if they are asked for and the line was understood. -/
  groups : (value.field? "groups").isSome = true ↔ withGroups = true ∧ codeOf outcome = 0
  /-- There is an entry for every group, with the keys of its own part of the settled text. -/
  entries : ∀ context, outcome = .ok context → withGroups = true →
    ∃ entries matched gated, value.field? "groups" = some (.array entries) ∧
      AmbiguityGroup.read (Catalog.ofWorld world).words context.settled = .ok matched ∧
      AmbiguityGroup.gate matched = .ok gated ∧
      (AmbiguityGroup.keysByGroup gated).flatten = matched.map AmbiguityGroup.key ∧
      List.Forall₂ (Group.IsReadAs world) (AmbiguityGroup.keysByGroup gated) context.groups ∧
      List.Forall₂ (fun read entry => TellsGroup world read.1 read.2 entry)
        ((AmbiguityGroup.keysByGroup gated).zip context.groups) entries

section Outcome

variable {world : World} {limit : Int} {line : Line} {outcome : Except Misreading Context}
  (hworld : world.Built)
  (hline : Context.ofLine .double (Catalog.ofWorld world) (.whole limit) line =
    outcome.mapError .misread)

include hline in
/-- The suggestions are no more than were asked for. -/
theorem length_displaysOf_le (hlimit : 1 ≤ limit) :
    ((displaysOf outcome).length : Int) ≤ limit := by
  cases outcome with
  | ok context =>
    obtain ⟨-, ranked, -, hsuggestions⟩ := Context.exists_rank_of_ofLine_eq_ok hline
    have hlength := (Suggestion.selects_selectTop Suggestion.score limit ranked).length_eq
    rw [← hsuggestions] at hlength
    show ((context.suggestions.map Suggestion.display).length : Int) ≤ limit
    rw [List.length_map]
    omega
  | error misreading =>
    show (0 : Int) ≤ limit
    omega

include hworld

/-- **A line comes to a context or a misreading**, and a session that was just opened answers so. -/
theorem exists_suggest_eq_answerOf (limit : Int) (line : Line) :
    ∃ outcome, Context.ofLine .double (Catalog.ofWorld world) (.whole limit) line =
        outcome.mapError .misread ∧
      (Session.suggest { world, limit := .whole limit } line).2 = .ok (answerOf line outcome) := by
  cases hread : Context.readGroups (Catalog.ofWorld world) (Context.settledPart line.clean) with
  | error misreading =>
    have hline := Context.ofLine_of_error .double limit line hread
    have hjudge : Session.judge { world, limit := .whole limit } line =
        .ok (.misread misreading, !misreading.isFatal) := by
      unfold Session.judge Session.catalog
      rw [hline]
      rfl
    refine ⟨.error misreading, hline, ?_⟩
    rw [Session.suggest, hjudge]
    rfl
  | ok groups =>
    obtain ⟨context, hline, -⟩ :=
      Context.exists_ofLine_of_ok hworld.sound .double limit line hread
    have hjudge : Session.judge { world, limit := .whole limit } line =
        .ok (.understood context, true) := by
      unfold Session.judge Session.catalog
      rw [hline]
      rfl
    refine ⟨.ok context, hline, ?_⟩
    rw [Session.suggest, hjudge]
    rfl

/-- The suggestions of a context are words of the world. -/
theorem mem_words_of_mem_suggestions {context : Context}
    (hcontext : Context.ofLine .double (Catalog.ofWorld world) (.whole limit) line = .ok context)
    {suggestion : Suggestion} (h : suggestion ∈ context.suggestions) :
    suggestion.word ∈ world.words := by
  have hread := Context.groups_of_ofLine_eq_ok hworld.sound .double limit line hcontext
  obtain ⟨-, ranked, hranked, hsuggestions⟩ := Context.exists_rank_of_ofLine_eq_ok hcontext
  have hwords := Context.map_word_of_rank_eq_ok hworld.sound Rounding.keepsOrder_double hcontext
    hranked
  rw [hsuggestions] at h
  have hword := List.mem_map_of_mem (f := Suggestion.word)
    ((Suggestion.selects_selectTop Suggestion.score limit ranked).subset h)
  rw [hwords] at hword
  exact Context.mem_words_of_mem_candidates hworld.sound hread (List.mem_filter.mp hword).1

include hline

/-- **Every text of an answer stands on one line.** -/
theorem isLegible_answerOf : IsLegible (answerOf line outcome) := by
  have hclean : line.clean.text.IsOneLine :=
    (Text.AllTypable.of_isTypable line.isTypable_clean).isOneLine
  cases outcome with
  | ok context =>
    refine ⟨hclean, ?_, fun error herror => absurd herror (by simp [answerOf, Answer.error?]), ?_⟩
    · rintro _ ⟨⟩ group hgroup t ht
      obtain ⟨matched, gated, -, -, -, hgroups⟩ := Context.isReadAs_of_ofLine hworld.sound hline
      obtain ⟨keys, -, hkeys⟩ := exists_of_mem_forall₂ hgroups hgroup
      exact isBare_of_mem_groupLines hworld.sound hkeys ht
    · intro suggestion hsuggestion
      rw [(Context.showsWord_of_mem_suggestions hline hsuggestion).display_eq]
      exact Word.isOneLine_display hworld.sound
        (mem_words_of_mem_suggestions hworld hline hsuggestion)
  | error misreading =>
    have hread := (Context.ofLine_eq_error_iff hworld.sound .double limit line).mp hline
    refine ⟨hclean, fun context hcontext => absurd hcontext (by simp [answerOf, Answer.context?]),
      ?_, fun suggestion hsuggestion => absurd hsuggestion List.not_mem_nil⟩
    rintro _ ⟨⟩
    exact Context.isOneLine_of_readGroups hworld.sound (Context.allTypable_settledPart line) hread

/-- **A plain report tells what a line came to.** -/
theorem tellsPlainly_plainReport (withGroups : Bool) :
    TellsPlainly outcome (plainReport withGroups (answerOf line outcome) ++ ['\n']) := by
  have hlegible := isLegible_answerOf hworld hline
  constructor
  case offers => rw [hlegible.offersOn_plainReport, suggestions_answerOf]
  case error =>
    rintro misreading rfl
    rw [hlegible.splitOn_plainReport]
    exact List.mem_append_left _ (List.mem_append_right _ List.mem_cons_self)

/-- **A JSON report tells what a line came to.** -/
theorem tellsInJson_answerJson (withGroups : Bool) :
    TellsInJson world withGroups outcome
      (answerJson withGroups (answerOf line outcome)).reread := by
  constructor
  case suggestions =>
    refine ⟨((answerOf line outcome).suggestions.map suggestionJson).map Json.reread, ?_, ?_⟩
    · rw [Json.field?_reread, field?_suggestions, Option.map_some, Json.reread_array]
    · rw [← suggestions_answerOf line outcome, List.map_map, List.map_map, List.map_map]
      refine List.map_congr_left fun suggestion _ => ?_
      show (suggestionJson suggestion).reread.field? "display" = some (.string suggestion.display)
      rw [Json.field?_reread]
      rfl
  case error =>
    rw [Json.field?_reread, field?_error]
    cases outcome <;> rfl
  case groups =>
    rw [Json.field?_reread, Option.isSome_map, field?_groups]
    cases outcome with
    | ok context => cases withGroups <;> simp [answerOf, shownGroups?, Answer.context?, codeOf]
    | error misreading =>
      cases withGroups <;> cases misreading <;>
        simp [answerOf, shownGroups?, Answer.context?, codeOf, Misreading.isFatal]
  case entries =>
    rintro context rfl rfl
    obtain ⟨matched, gated, hmatched, hgated, hkeys, hgroups⟩ :=
      Context.isReadAs_of_ofLine hworld.sound hline
    refine ⟨context.groups.map groupJson, matched, gated, ?_, hmatched, hgated, hkeys, hgroups,
      forall₂_zip_map hgroups fun keys group hgroup => tellsGroup_groupJson hgroup⟩
    rw [Json.field?_reread, field?_groups]
    show some (Json.reread (.array (context.groups.map groupJson))) = _
    rw [Json.reread_array_map reread_groupJson]

/-- **A report on a line and a world of common size can be read back.** -/
theorem fits_answerJson_answerOf (hnouns : ∀ noun ∈ world.nouns, IsShort noun.ref)
    (htext : IsShort line.text.length) (withGroups : Bool) (nesting : Json.Nesting) :
    Json.Fits nesting.levels (answerJson withGroups (answerOf line outcome)) := by
  -- a report has six levels, and any reader goes as deep as that
  obtain ⟨depth, hdepth⟩ := Nat.exists_eq_add_of_le' nesting.six_le
  rw [hdepth]
  refine fits_answerJson depth withGroups ?_ ?_
  · -- the caret stands within the cleaned text, which is no longer than what was typed
    have hanswer : (answerOf line outcome).line = line.clean := by cases outcome <;> rfl
    obtain ⟨k, hk, hclean⟩ := line.exists_caret_clean
    have hle : line.clean.text.length ≤ line.text.length := by
      rw [Line.clean_text]
      exact Text.length_cleanAfter_le true line.text
    rw [hanswer, hclean]
    exact lt_of_le_of_lt (hk.trans hle) htext
  · intro context hshown group hgroup cluster hcluster
    cases outcome with
    | ok context' =>
      obtain rfl : context' = context := by
        cases withGroups with
        | true => exact Option.some.inj hshown
        | false => exact absurd hshown (by simp [shownGroups?])
      have hread := Context.groups_of_ofLine_eq_ok hworld.sound .double limit line hline
      obtain ⟨noun, hnoun, number, keys, rfl⟩ :=
        Context.exists_following_of_mem_clusters hworld.sound hread hgroup hcluster
      exact hnouns noun hnoun
    | error misreading =>
      exact absurd hshown (by cases withGroups <;> simp [answerOf, shownGroups?, Answer.context?])

end Outcome

/-! ### All forms of a report -/

/-- The arguments ask what comes of a line, with a caret and a limit, in the world at a path. -/
structure Asks (host : Host) (environment : Environment) (path : Path) (line : Text)
    (caret : Option Int) (limit : Int) (arguments : List Text) (withGroups : Bool)
    (options : Options) : Prop where
  read : Command.read arguments = .ok (.prompt withGroups line options)
  worldPath : Command.worldPath host environment (.prompt withGroups line options) = path
  caret : options.caret.number? ⟨"int", "list"⟩ = .ok caret
  limit : options.limitIn environment = limit

namespace Asks

variable {host : Host} {environment : Environment} {path : Path} {world : World}
  {line : Text} {caret : Option Int} {limit : Int} {arguments : List Text} {withGroups : Bool}
  {options : Options}
  (hasks : Asks host environment path line caret limit arguments withGroups options)
  (hlimit : 1 ≤ limit)

include hasks hlimit

theorem hasLimit : HasLimit (.prompt withGroups line options) := by
  show options.maxSuggestions = .absent ∨ ∃ n, options.maxSuggestions = .given n ∧ 1 ≤ n
  have hvalue := hasks.limit
  unfold Options.limitIn at hvalue
  cases h : options.maxSuggestions with
  | absent => exact Or.inl rfl
  | empty => exact absurd h (hasNumbers_of_read hasks.read).maxSuggestions
  | given n =>
    rw [h] at hvalue
    exact Or.inr ⟨n, rfl, (show n = limit from hvalue) ▸ hlimit⟩

/-- Whoever asks what comes of a line gets a report on the answer of a session. -/
theorem run_eq (hsettle : settle host = .ok environment) (hworld : host.world path = .ok world)
    {answer : Answer}
    (hsuggest : (Session.suggest { world, limit := .whole limit } (.withCaret line caret)).2 =
      .ok answer) :
    run host arguments = .ok {
      code := exitCode answer
      output := report withGroups options answer ++ ['\n'] } := by
  have hhas := hasks.hasLimit hlimit
  obtain ⟨answer', hanswer, hproceed⟩ :=
    exists_proceed_prompt environment (World.built_of_load hworld) hhas hasks.caret
  rw [hasks.limit] at hanswer
  obtain rfl := Except.ok.inj (hanswer.symm.trans hsuggest)
  rw [run_eq_execute hsettle hasks.read, execute_eq_withWorld environment hhas,
    hasks.worldPath, withWorld_of_ok hworld, hproceed]

end Asks

/-- **All forms of a report agree.** A text, a caret and a limit come to one outcome in a world, and
there are two payloads in JSON, with groups and without. Whatever the arguments are that ask for it,
the command ends with the code of the outcome. What it prints tells of that outcome in lines, or is
the payload, in one of its layouts, which any reader of JSON reads back from it. -/
theorem reports_agree {host : Host} {environment : Environment} {path : Path} {world : World}
    (hsettle : settle host = .ok environment) (hworld : host.world path = .ok world)
    (line : Text) (caret : Option Int) {limit : Int} (hlimit : 1 ≤ limit) :
    ∃ (outcome : Except Misreading Context) (payload : Bool → Json),
      Context.ofLine .double (Catalog.ofWorld world) (.whole limit) (.withCaret line caret) =
        outcome.mapError .misread ∧
      ((displaysOf outcome).length : Int) ≤ limit ∧
      (∀ withGroups, TellsInJson world withGroups outcome (payload withGroups).reread) ∧
      ∀ arguments withGroups options,
        Asks host environment path line caret limit arguments withGroups options →
        ∃ printed, run host arguments = .ok printed ∧ printed.code = codeOf outcome ∧
          printed.message = none ∧
          (options.format = .plain → TellsPlainly outcome printed.output) ∧
          (options.format = .json → printed.output = (payload withGroups).write
            (if options.pretty then .indented else .oneLine) ++ ['\n'] ∧
            ((∀ noun ∈ world.nouns, IsShort noun.ref) → IsShort line.length →
              ∀ nesting, Json.read nesting printed.output = .ok (payload withGroups).reread)) := by
  have hbuilt := World.built_of_load hworld
  obtain ⟨outcome, hline, hsuggest⟩ :=
    exists_suggest_eq_answerOf hbuilt limit (.withCaret line caret)
  refine ⟨outcome,
    fun withGroups => answerJson withGroups (answerOf (.withCaret line caret) outcome), hline,
    length_displaysOf_le hline hlimit, tellsInJson_answerJson hbuilt hline, ?_⟩
  intro arguments withGroups options hasks
  have hrun := hasks.run_eq hlimit hsettle hworld hsuggest
  refine ⟨_, hrun, exitCode_answerOf _ outcome, rfl, ?_, ?_⟩
  · intro hplain
    show TellsPlainly outcome (report withGroups options _ ++ ['\n'])
    unfold report
    rw [hplain]
    exact tellsPlainly_plainReport hbuilt hline withGroups
  · intro hjson
    have hreport : report withGroups options (answerOf (.withCaret line caret) outcome) =
        (answerJson withGroups (answerOf (.withCaret line caret) outcome)).write
          (if options.pretty then .indented else .oneLine) := by
      unfold report
      rw [hjson]
    rw [hreport]
    refine ⟨rfl, fun hnouns htext nesting => ?_⟩
    refine Json.read_write _
      (fits_answerJson_answerOf hbuilt hline hnouns htext withGroups nesting) ?_
    intro c hc
    rw [List.mem_singleton.mp hc]
    rfl

/-- A host with nothing but the packaged world. -/
def bareHost : Host where
  environment := []
  file := fun path =>
    if path.steps = [World.packagedName.toList] then .ok (Text.utf8 World.packagedText)
    else .error .missing
  packaged := ⟨.workingFolder, [World.packagedName.toList]⟩

theorem bareHost_world : bareHost.world bareHost.packaged = .ok .packaged := by
  unfold Host.world bareHost
  dsimp only
  rw [if_pos rfl]
  exact World.load_packagedText

/-- A plain report without groups and a JSON report with groups agree on an unfinished word. -/
theorem reports_agree_take_red :
    ∃ (outcome : Except Misreading Context) (payload : Bool → Json) (plain json : Printed),
      run bareHost (["suggest", "take red b", "--max-suggestions=2"].map String.toList) =
        .ok plain ∧
      run bareHost (["inspect", "take red b", "--format", "json", "--pretty", "--max-suggestions",
        "2"].map String.toList) = .ok json ∧
      plain.code = codeOf outcome ∧ json.code = codeOf outcome ∧
      TellsPlainly outcome plain.output ∧
      TellsInJson .packaged true outcome (payload true).reread ∧
      Json.read .usual json.output = .ok (payload true).reread := by
  obtain ⟨outcome, payload, -, -, htells, hforms⟩ := @reports_agree bareHost [] bareHost.packaged
    .packaged rfl bareHost_world "take red b".toList none 2 (by decide)
  have hplain : Asks bareHost [] bareHost.packaged "take red b".toList none 2
      (["suggest", "take red b", "--max-suggestions=2"].map String.toList) false
      { maxSuggestions := .given 2 } :=
    ⟨by decide +kernel, rfl, rfl, rfl⟩
  have hjson : Asks bareHost [] bareHost.packaged "take red b".toList none 2
      (["inspect", "take red b", "--format", "json", "--pretty", "--max-suggestions",
        "2"].map String.toList) true
      { maxSuggestions := .given 2, format := .json, pretty := true } :=
    ⟨by decide +kernel, rfl, rfl, rfl⟩
  obtain ⟨plain, hrun, hcode, -, htold, -⟩ := hforms _ _ _ hplain
  obtain ⟨json, hrun', hcode', -, -, hread⟩ := hforms _ _ _ hjson
  -- the numbers of this world and this line have one digit, or two
  have hhundred : 10 ^ 2 ≤ 10 ^ Integer.maxDigits := Nat.pow_le_pow_right (by decide) (by decide)
  have hnouns : ∀ noun ∈ World.packaged.nouns, IsShort noun.ref := by
    have hless : ∀ noun ∈ World.packaged.nouns, noun.ref.natAbs < 10 ^ 2 := by decide +kernel
    exact fun noun hnoun => lt_of_lt_of_le (hless noun hnoun) hhundred
  have hline : IsShort ("take red b".toList.length : Int) := lt_of_lt_of_le (by decide) hhundred
  exact ⟨outcome, payload, plain, json, hrun, hrun', hcode, hcode', htold rfl, htells true,
    (hread rfl).2 hnouns hline .usual⟩

end CommandPrompt.Command
