import VirtualShell.Builtin
import VirtualShell.Proofs.Assignment
import VirtualShell.Proofs.Text.Order

/-!
Contract: what `export` lists can be read back.

Owns:
- `listedNames`, the variables that are listed, in order, and `assignmentText`, the assignment
  in the line of a variable;
- `Declares`, the tokens of such a line;
- `listing_reads_back`: the listing is scanned to these tokens and nothing else, each assignment
  in it has the value of its variable for all parameters, and a line of such assignments gives
  the variables their values in any shell.
-/

namespace VirtualShell

/-! ## The text of a listing -/

/-- The variables that are listed, in order. -/
def listedNames (environment : Environment) : List String :=
  (Text.sorted environment.keys).filter isName

/-- A variable that is listed. -/
abbrev Listed (environment : Environment) := { name : String // name ∈ listedNames environment }

/-- The value of a variable that is there. -/
def valueOf (environment : Environment) (name : String) : String :=
  (environment.get? name).getD ""

/-- The assignment in the line of a variable. -/
def assignmentText (environment : Environment) (name : String) : String :=
  name ++ "=" ++ Builtin.singleQuoted (valueOf environment name)

theorem listing_eq (environment : Environment) :
    Builtin.listing environment = String.join ((listedNames environment).map fun name =>
      "declare -x " ++ assignmentText environment name ++ "\n") := by
  simp [Builtin.listing, Builtin.declaration, listedNames, assignmentText, valueOf,
    String.append_assoc]

theorem mem_listedNames {environment : Environment} {name : String} :
    name ∈ listedNames environment ↔ isName name = true ∧ name ∈ environment.keys := by
  rw [listedNames, List.mem_filter, Text.mem_sorted, and_comm]

/-- A variable that is listed is there. -/
theorem get?_of_listed {environment : Environment} (name : Listed environment) :
    environment.get? name = some (valueOf environment name) := by
  have there := Table.mem_keys_iff.1 (mem_listedNames.1 name.property).2
  obtain ⟨value, found⟩ := Option.isSome_iff_exists.1 there
  rw [valueOf, found]
  rfl

theorem pairwise_listedNames (environment : Environment) :
    (listedNames environment).Pairwise (· < ·) :=
  (Text.pairwise_lt_sorted environment.distinct).filter _

theorem quotes_singleQuoted (value : String) :
    Quotes (Builtin.singleQuoted value).toList value.toList := by
  have escapes : (fun c => if (c == '\'') = true then ['\'', '\\', '\'', '\''] else [c]) =
      Style.singleEscape := by
    funext c
    rw [Style.singleEscape]
    simp only [beq_iff_eq]
  have same : (Builtin.singleQuoted value).toList = Style.spelling value.toList .single := by
    rw [Builtin.singleQuoted, escapes]
    simp [Style.spelling]
  have fits : Style.single.Fits value := trivial
  rw [same]
  exact Style.quotes fits

/-! ## The tokens of a listing -/

theorem becomes_assignmentText (environment : Environment) {name : String}
    (named : isName name = true) :
    Becomes EndsWord (assignmentText environment name).toList fun tokens =>
      ∃ word, tokens = [.word word] ∧ word.Assigns name (valueOf environment name) := by
  have chars : (assignmentText environment name).toList =
      name.toList ++ '=' :: (Builtin.singleQuoted (valueOf environment name)).toList := by
    simp [assignmentText]
  rw [chars]
  exact .assignment named (quotes_singleQuoted _)

/-- A minus starts a word. -/
theorem becomes_option :
    Becomes EndsWord ['-', 'x'] fun tokens =>
      ∃ word, tokens = [.word word] ∧ word.bare? = some "-x" := by
  refine .of_draft (fun found => found.settled.reverse = [⟨"-x", .unquoted⟩])
    (fun scan rest outside => ?_) fun found stop same => ?_
  · have read : Lexeme.read scan.draft.isSome '-' ('x' :: rest) =
        .ok ⟨.plain ['-'], 1, Nat.one_pos⟩ := by
      rw [outside]
      rfl
    have opened : scan.finish ('-' :: 'x' :: rest) =
        (⟨scan.position + 1, some ⟨scan.position, [], ['-']⟩, scan.tokens⟩ : Scan).finish
          ('x' :: rest) := by
      rw [Scan.finish_cons read]
      simp [Scan.advance, Scan.openDraft, outside, Draft.addPlain]
    have ended : (⟨scan.position + 1, some ⟨scan.position, [], ['-']⟩, scan.tokens⟩ : Scan).finish
        (['x'] ++ rest) = _ := Scan.finish_plain (by decide) rfl rest
    exact ⟨⟨scan.position + 2, some ⟨scan.position, [], ['x', '-']⟩, scan.tokens⟩, _, rfl, rfl, rfl,
      opened.trans ended⟩
  · have segments : (found.word stop).segments = [⟨"-x", .unquoted⟩] := same
    simp [Word.bare?, Word.isQuoted, Word.text, segments, Segment.isQuoted]

/-- The tokens of a line that declares a variable: its assignment is expanded to the name and
the value whatever the parameters are. -/
def Declares (tokens : List Token) (name value : String) : Prop :=
  ∃ command option assignment : Word, ∃ start stop,
    tokens = [.word command, .word option, .word assignment, .operator .newline start stop] ∧
      command.bare? = some "declare" ∧ option.bare? = some "-x" ∧
      ∀ parameters, splitAssignment? (expandWord parameters assignment) = some (name, value)

theorem becomes_declaration (environment : Environment) {name : String}
    (named : isName name = true) :
    Becomes (fun _ => True)
      ("declare -x " ++ assignmentText environment name ++ "\n").toList fun tokens =>
        Declares tokens name (valueOf environment name) := by
  have chars : ("declare -x " ++ assignmentText environment name ++ "\n").toList =
      ("declare".toList ++ (Gap.space.chars ++ (['-', 'x'] ++ (Gap.space.chars ++
        (assignmentText environment name).toList)))) ++ (Operator.text .newline).toList := by
    simp [Gap.space, Operator.text]
  have command : Becomes EndsWord "declare".toList fun tokens =>
      ∃ word, tokens = [.word word] ∧ word.bare? = some "declare" :=
    .bare ⟨"declare", by decide, by decide⟩
  have words := command.gap .space (becomes_option.gap .space
    (becomes_assignmentText environment named))
  rw [chars]
  refine (words.append ((Becomes.operator .newline).weaken fun _ _ => .inl rfl)
    fun rest _ => endsWord_newline rest).mono ?_
  rintro _ ⟨_, _, rfl, ⟨_, _, rfl, ⟨command, rfl, bare⟩, _, _, rfl, ⟨option, rfl, same⟩, assignment,
    rfl, assigns⟩, start, stop, rfl⟩
  refine ⟨command, option, assignment, start, stop, rfl, bare, same, fun parameters => ?_⟩
  rw [assigns.expandWord, splitAssignment?_append named]

/-- The listing is scanned to the tokens of its lines. -/
theorem scan_listing (environment : Environment) :
    ∃ parts, Token.scan (Builtin.listing environment) = .ok parts.flatten ∧
      List.Forall₂ (fun tokens name => Declares tokens name (valueOf environment name)) parts
        (listedNames environment) := by
  have lines := Becomes.flatMap fun name (member : name ∈ listedNames environment) =>
    becomes_declaration environment (mem_listedNames.1 member).1
  obtain ⟨_, ⟨parts, rfl, each⟩, scanned⟩ := lines.scan trivial
  refine ⟨parts, ?_, each⟩
  rw [← scanned]
  congr 1
  rw [← String.toList_inj, listing_eq, String.toList_join, List.flatMap_map,
    String.toList_ofList]

/-! ## Lines of assignments -/

/-- The assignments of some variables that are listed, with gaps between them. -/
def assignmentLine (environment : Environment) (first : Listed environment)
    (others : List (Gap × Listed environment)) : String :=
  assignmentText environment first ++ String.join (others.map fun other =>
    String.ofList other.1.chars ++ assignmentText environment other.2)

/-- The variables with their values. -/
def pairsOf (environment : Environment) (names : List (Listed environment)) :
    List (String × String) :=
  names.map fun (name : Listed environment) => (name.1, valueOf environment name.1)

/-- Once the variables have been assigned these values, they have the values that they had. -/
theorem get?_assignedAll_pairsOf {environment : Environment} (names : List (Listed environment))
    (before : Environment) (name : String) :
    (assignedAll before (pairsOf environment names)).get? name =
      if name ∈ names.map Subtype.val then environment.get? name else before.get? name := by
  have each : ∀ pair ∈ pairsOf environment names, pair.2 = valueOf environment pair.1 := by
    intro pair member
    obtain ⟨listed, -, rfl⟩ := List.mem_map.1 member
    rfl
  have fronts : (pairsOf environment names).map Prod.fst = names.map Subtype.val := by
    simp [pairsOf, Function.comp_def]
  rw [get?_assignedAll each, fronts]
  split
  case isTrue member =>
    obtain ⟨listed, -, rfl⟩ := List.mem_map.1 member
    exact (get?_of_listed listed).symm
  case isFalse => rfl

theorem read_assignmentLine {environment : Environment} (first : Listed environment)
    (others : List (Gap × Listed environment)) :
    ∃ words : List Word,
      Statement.read (assignmentLine environment first others) =
        .ok (some ⟨.pipelines [⟨[⟨⟨words, []⟩, none, 0⟩]⟩], none⟩) ∧
      List.Forall₂ (fun word pair => word.Assigns pair.1 pair.2) words
        (pairsOf environment (first :: others.map Prod.snd)) := by
  have spelled : assignmentLine environment first others = String.ofList
      ((assignmentText environment first).toList ++
        others.flatMap fun other =>
          other.1.chars ++ (assignmentText environment other.2).toList) := by
    rw [← String.toList_inj]
    simp [assignmentLine, List.flatMap_map]
  have becomes := Becomes.list (fun name : Listed environment =>
    becomes_assignmentText environment (mem_listedNames.1 name.property).1) first others
  obtain ⟨_, ⟨groups, rfl, each⟩, scanned⟩ := becomes.scan endsWord_nil
  obtain ⟨words, rfl, assigns⟩ := exists_words each
  rw [flatten_words, ← spelled] at scanned
  have known : List.Forall₂ (fun word pair => word.Assigns pair.1 pair.2) words
      (pairsOf environment (first :: others.map Prod.snd)) :=
    List.forall₂_map_right_iff.2 assigns
  have quoted : ∀ word ∈ words, word.bare? = none :=
    ((List.forall₂_and_left words _).1
      (assigns.imp fun _ _ assigns => ⟨assigns.bare?, assigns⟩)).1
  have filled : words ≠ [] := by
    rintro rfl
    cases assigns
  refine ⟨words, ?_, known⟩
  unfold Statement.read
  rw [scanned]
  exact (readsPipelines_of_bare?_eq_none filled quoted).ofTokens_eq _

theorem isBlankText_assignmentLine {environment : Environment} (first : Listed environment)
    (others : List (Gap × Listed environment)) :
    Text.isBlankText (assignmentLine environment first others) = false := by
  have equals : '=' ∈ (assignmentLine environment first others).toList := by
    simp [assignmentLine, assignmentText]
  rw [Text.isBlankText, List.all_eq_false]
  exact ⟨_, equals, by decide⟩

/-! ## Reading a listing back -/

/-- The listing of a shell holds one line for each of its variables with a well-formed name, in
order. It is scanned to the tokens of these lines and nothing else. In each line, the assignment
has the name and the value of the variable whatever is looked up. And a line of such assignments,
at least one, gives the variables these values in any shell that may still run a text, and
changes no other variable and nothing else but the count of runs, the events and `$?`. -/
theorem listing_reads_back (lister : Session) :
    (Builtin.run .export []).run lister =
        (.ok (.printed (Builtin.listing lister.environment)), lister) ∧
      Builtin.listing lister.environment =
        String.join ((listedNames lister.environment).map fun name =>
          "declare -x " ++ assignmentText lister.environment name ++ "\n") ∧
      (listedNames lister.environment).Pairwise (· < ·) ∧
      (∀ name, name ∈ listedNames lister.environment ↔
        isName name = true ∧ name ∈ lister.environment.keys) ∧
      (∃ parts, Token.scan (Builtin.listing lister.environment) = .ok parts.flatten ∧
        List.Forall₂ (fun tokens name => Declares tokens name (valueOf lister.environment name))
          parts (listedNames lister.environment)) ∧
      ∀ (first : Listed lister.environment) (others : List (Gap × Listed lister.environment))
        (setup : Setup) (room : Nat) (session : Session),
        Interpreter.countAtStart session < setup.limits.commandCount →
        ∃ environment count journal,
          (Interpreter.execute (Interpreter.run setup (room + 1))
              (assignmentLine lister.environment first others)).run session =
            (.ok .success,
              { session with
                environment := environment
                commandCount := count
                lastExitCode := 0
                journal := journal }) ∧
          ∀ name, environment.get? name =
            if name ∈ first.val :: others.map fun other => other.2.val
            then lister.environment.get? name else session.environment.get? name := by
  refine ⟨rfl, listing_eq _, pairwise_listedNames _, fun _ => mem_listedNames, scan_listing _, ?_⟩
  intro first others setup room session below
  obtain ⟨words, reads, assigns⟩ := read_assignmentLine first others
  obtain ⟨count, journal, ran⟩ := Interpreter.execute_of_assignments
    (isBlankText_assignmentLine first others) reads assigns below room
  refine ⟨_, count, journal, ran, fun name => ?_⟩
  rw [get?_assignedAll_pairsOf, List.map_cons, List.map_map]
  rfl

/-- Variables with quotes, line breaks, dollars and backslashes in their values. -/
def quaintEnvironment : Environment :=
  .ofList [("Q", "it's"), ("1x", "unlisted"), ("A", "$Q\n\\=\"")]

/-- Two of them are given their values in another shell. -/
theorem listing_reads_back_quaint :
    Interpreter.countAtStart Interpreter.bareShell.session <
        Interpreter.librarySetup.limits.commandCount ∧
      ∃ environment count journal,
        (Interpreter.execute (Interpreter.run Interpreter.librarySetup 1)
            "A='$Q\n\\=\"' Q='it'\\''s'").run Interpreter.bareShell.session =
          (.ok .success,
            { Interpreter.bareShell.session with
              environment := environment
              commandCount := count
              lastExitCode := 0
              journal := journal }) ∧
        environment.get? "A" = some "$Q\n\\=\"" ∧ environment.get? "Q" = some "it's" := by
  have below : Interpreter.countAtStart Interpreter.bareShell.session <
      Interpreter.librarySetup.limits.commandCount := by decide
  have first : "A" ∈ listedNames quaintEnvironment := mem_listedNames.2 (by decide)
  have second : "Q" ∈ listedNames quaintEnvironment := mem_listedNames.2 (by decide)
  have line : assignmentLine quaintEnvironment ⟨"A", first⟩ [(.space, ⟨"Q", second⟩)] =
      "A='$Q\n\\=\"' Q='it'\\''s'" := by
    change assignmentText quaintEnvironment "A" ++ String.join
      [String.ofList Gap.space.chars ++ assignmentText quaintEnvironment "Q"] = _
    decide +kernel
  obtain ⟨-, -, -, -, -, assigns⟩ := listing_reads_back
    { Interpreter.bareShell.session with environment := quaintEnvironment }
  obtain ⟨environment, count, journal, ran, values⟩ :=
    assigns ⟨"A", first⟩ [(.space, ⟨"Q", second⟩)] Interpreter.librarySetup 0 _ below
  rw [line] at ran
  refine ⟨below, environment, count, journal, ran, ?_, ?_⟩
  · rw [values]
    rfl
  · rw [values]
    rfl

end VirtualShell
