import VirtualShell.Expansion
import VirtualShell.Proofs.Parameter
import VirtualShell.Proofs.Statement.Pipelines
import VirtualShell.Proofs.Token.Stretch

/-!
Contract: a quoted text is one word that stands for exactly this text.

Owns:
- `expandVariables_of_closed`, that a text without references stands for itself;
- `Word.IsLiteral.expandWord`, and the same for arguments and for the words of a loop;
- `renderLiterals` and `literals_read_back`, that texts which are quoted one by one are the
  words of one command and come out of every expansion as they went in.
-/

namespace VirtualShell

/-! ## Expansion -/

/-- A text without references stands for itself. -/
theorem expandVariables_of_closed {text : String} (closed : '$' ∉ text.toList)
    (parameters : Parameters) : expandVariables parameters text = text := by
  by_cases filled : text = ""
  · subst filled
    have reads : Template.ReadsAs parameters.environment.domain "".toList [] := .nil
    exact expandVariables_eq_meaning reads
  · have reads : Template.ReadsAs parameters.environment.domain (text.toList ++ [])
        [.literal text] := .text text filled closed (by simp) .nil
    rw [List.append_nil] at reads
    rw [expandVariables_eq_meaning reads]
    simp [Template.meaning, Template.Part.meaning]

/-- A segment without anything to expand stands for its text. -/
theorem expandSegment_of_closed {segment : Segment} (quoted : segment.isQuoted = true)
    (closed : segment.quoting = .double → '$' ∉ segment.text.toList) (parameters : Parameters)
    (isFirst : Bool) : expandSegment parameters isFirst segment = segment.text := by
  unfold expandSegment
  cases quoting : segment.quoting with
  | single => rfl
  | double => exact expandVariables_of_closed (closed quoting) parameters
  | unquoted => simp [Segment.isQuoted, quoting] at quoted

namespace Word.IsLiteral

variable {word : Word} {text : String}

theorem expandWord (literal : word.IsLiteral text) (parameters : Parameters) :
    expandWord parameters word = text := by
  have each : ∀ isFirst, ∀ segment ∈ word.segments,
      expandSegment parameters isFirst segment = segment.text := fun isFirst segment member =>
    expandSegment_of_closed (literal.quoted segment member) (literal.closed segment member)
      parameters isFirst
  rw [← literal.text_eq, Word.text, VirtualShell.expandWord]
  cases segments : word.segments with
  | nil => rfl
  | cons first others =>
      rw [segments] at each
      have behind : others.map (expandSegment parameters false) = others.map Segment.text :=
        List.map_congr_left fun segment member => each false segment (List.mem_cons_of_mem _ member)
      simp only [each true first List.mem_cons_self, behind, List.map_cons, String.join_cons]

/-- A literal word is one argument: it is no pattern. -/
theorem expandArgument (literal : word.IsLiteral text) (surroundings : Surroundings) :
    expandArgument surroundings word = .ok [text] := by
  rw [VirtualShell.expandArgument, literal.expandWord, if_pos literal.isQuoted]

/-- A literal word is one word of a loop: it is not split, and no pattern. -/
theorem expandListItem (literal : word.IsLiteral text) (surroundings : Surroundings) :
    expandListItem surroundings word = .ok [text] := by
  rw [VirtualShell.expandListItem, literal.expandWord, if_pos literal.isQuoted]

end Word.IsLiteral

/-! ## Literals on a line -/

/-- Literals with gaps between them. -/
def renderLiterals (first : Literal) (others : List (Gap × Literal)) : String :=
  first.render ++ String.join (others.map fun other =>
    String.ofList other.1.chars ++ other.2.render)

/-- Words without a meaning of their own are read as the words of a single stage. -/
theorem readsPipelines_of_bare?_eq_none {words : List Word} (filled : words ≠ [])
    (quoted : ∀ word ∈ words, word.bare? = none) :
    Statement.ReadsPipelines (words.map .word) [⟨[⟨⟨words, []⟩, none, 0⟩]⟩] := by
  have each := Statement.readsPart_words quoted
  have parts : words.map Statement.CommandPart.word ≠ [] := by simpa using filled
  have marks : ∀ bang ∈ ([] : List Word), bang.bare? = some "!" := by simp
  have stage := Statement.ReadsStages.stage marks each parts none
  have command := Statement.commandOf_append words []
  rw [List.map_nil, List.append_nil] at command
  rw [command, flatten_words] at stage
  exact .last stage

/-- Literal words are read as the words of a single stage. -/
theorem readsPipelines_words {words : List Word} {text : String} {texts : List String}
    (literals : List.Forall₂ Word.IsLiteral words (text :: texts)) :
    Statement.ReadsPipelines (words.map .word) [⟨[⟨⟨words, []⟩, none, 0⟩]⟩] := by
  have filled : words ≠ [] := by
    rintro rfl
    cases literals
  exact readsPipelines_of_bare?_eq_none filled (bare?_of_literals literals)

/-- Texts that are quoted in any styles, with gaps between them, are scanned to one quoted
word each and nothing else. They are the words of a single stage, and whatever the variables,
the files and the working directory are, each of them stands for its text and for nothing
else. -/
theorem literals_read_back (first : Literal) (others : List (Gap × Literal)) :
    ∃ words : List Word,
      Token.scan (renderLiterals first others) = .ok (words.map .word) ∧
      Statement.read (renderLiterals first others) =
        .ok (some ⟨.pipelines [⟨[⟨⟨words, []⟩, none, 0⟩]⟩], none⟩) ∧
      List.Forall₂ (fun word text =>
        word.isQuoted = true ∧ word.text = text ∧ ∀ surroundings,
          expandWord surroundings.parameters word = text ∧
          expandArgument surroundings word = .ok [text] ∧
          expandListItem surroundings word = .ok [text])
        words (first.text :: others.map fun other => other.2.text) := by
  have spelled : renderLiterals first others = String.ofList
      (first.render.toList ++
        others.flatMap fun other => other.1.chars ++ other.2.render.toList) := by
    rw [← String.toList_inj]
    simp [renderLiterals, List.flatMap_map]
  have becomes := Becomes.list Becomes.literal first others
  rcases becomes.scan endsWord_nil with ⟨tokens, ⟨groups, rfl, each⟩, scanned⟩
  have texts : (first :: others.map Prod.snd).map Literal.text =
      first.text :: others.map fun other => other.2.text := by simp
  rcases exists_words (List.forall₂_map_right_iff.2 each) with ⟨words, rfl, literals⟩
  rw [texts] at literals
  rw [flatten_words, ← spelled] at scanned
  refine ⟨words, scanned, ?_, ?_⟩
  · have reads := readsPipelines_words literals
    unfold Statement.read
    rw [scanned]
    exact reads.ofTokens_eq _
  · exact literals.imp fun word text literal =>
      ⟨literal.isQuoted, literal.text_eq, fun surroundings =>
        ⟨literal.expandWord surroundings.parameters, literal.expandArgument surroundings,
          literal.expandListItem surroundings⟩⟩

end VirtualShell
