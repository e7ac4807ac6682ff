import LineWidth.Proofs.TokenRegions

/-! # Where the tokens of a stream come from

A token of a stream is a line end that stands alone, or it shows what one step of the lexer takes
from the text at the token's place. The step is in the mode that the scanner of `Regions` stands in,
and it sees the rest of its line and nothing behind it. What holds of every step of the lexer then
holds of every token, at its place in the source.
-/

namespace LineWidth

/-- Where a token comes from that stands in front of a text, the scanner standing there too. -/
inductive Token.Origin (token : Token) : Scanner → List Char → Prop
  | bare {scanner : Scanner} {ahead : List Char} (kind : token.kind = .whitespace)
      (visible : token.visible = []) (ends : AtLineEnd ahead) : Origin token scanner ahead
  | step {mode : Mode} {fresh : Bool} {c : Char} {rest tail : List Char} {step : Step}
      (taken : step = Step.next mode fresh c rest) (kind : token.kind = step.kind)
      (visible : token.visible = c :: rest.take step.more) (ends : AtLineEnd tail) :
      Origin token mode.scanner (c :: rest ++ tail)

/-- A token of a text that `ahead` follows: what is read before it, and where it comes from. -/
def Token.FoundIn (token : Token) (before : List Token) (scanner : Scanner)
    (text ahead : List Char) : Prop :=
  ∃ left marks next, text = before.flatMap Token.content ++ left ∧
    Reads (left ++ ahead) scanner (before.flatMap Token.content) marks next ∧
    token.Origin next (left ++ ahead)

section Line

variable {ahead : List Char} {scanner : Scanner} {token : Token} {before after : List Token}

/-- What is found in a text is found behind tokens that are read before it. -/
private theorem Token.FoundIn.append {first : List Token} {text rest : List Char}
    {marks : List Mark} {next : Scanner} (content : first.flatMap Token.content = text)
    (reads : Reads (rest ++ ahead) scanner text marks next)
    (found : token.FoundIn before next rest ahead) :
    token.FoundIn (first ++ before) scanner (text ++ rest) ahead := by
  obtain ⟨left, later, last, rfl, readsLater, origin⟩ := found
  rw [List.append_assoc] at reads
  refine ⟨left, marks ++ later, last, ?_, ?_, origin⟩
  · rw [List.flatMap_append, content, List.append_assoc]
  · rw [List.flatMap_append, content]
    exact reads.append readsLater

/-- What is found in a text is found in the whole of it and what follows. -/
private theorem Token.FoundIn.whole {text : List Char}
    (found : token.FoundIn before scanner text ahead) :
    token.FoundIn before scanner (text ++ ahead) [] := by
  obtain ⟨left, marks, next, rfl, reads, origin⟩ := found
  exact ⟨left ++ ahead, marks, next, List.append_assoc .., by simpa using reads,
    by simpa using origin⟩

/-- Every token of a body, the end of its line given away, is found in the text of the line. -/
private theorem Scanned.foundIn {tabWidth number column : Nat} {mode final : Mode} {fresh : Bool}
    {body : List Char} {parts : List Part} {ending : Option LineEnd}
    (scanned : Scanned mode fresh body parts final) (free : BreakFree body)
    (ends : AtLineEnd (ending.elim [] LineEnd.chars ++ ahead))
    (settled : body ≠ [] → scanner = mode.scanner)
    (split : placeOnto tabWidth number column [] (withEnd final ending parts) =
      before ++ token :: after) :
    token.FoundIn before scanner (body ++ ending.elim [] LineEnd.chars) ahead := by
  induction scanned generalizing scanner column before with
  | nil =>
    cases ending with
    | none =>
      cases before with
      | nil => cases split
      | cons first before => cases split
    | some ending =>
      cases before with
      | nil =>
        obtain ⟨rfl, -⟩ := List.cons.inj split
        exact ⟨ending.chars, [], scanner, rfl, .nil,
          .bare rfl (Token.visible_eq .nil rfl) ends⟩
      | cons first before => cases before <;> cases (List.cons.inj split).2
  | @cons mode fresh c rest parts final step taken tail ih =>
    obtain rfl := settled (List.cons_ne_nil _ _)
    have restFree := (breakFree_cons.mp free).2
    obtain ⟨region, opens, next, piece, -, -, nextSettled⟩ :=
      taken ▸ Step.next_simulated mode fresh restFree ends
    have cut : c :: rest = (c :: rest.take step.more) ++ rest.drop step.more := by simp
    obtain ⟨textFree, leftFree⟩ := breakFree_append.mp (cut ▸ free)
    -- whichever part gets the line end, the first token comes from this step
    have first {own : Token} (kind : own.kind = step.kind)
        (visible : own.visible = c :: rest.take step.more) :
        own.FoundIn [] mode.scanner (c :: rest ++ ending.elim [] LineEnd.chars) ahead := by
      refine ⟨c :: rest ++ ending.elim [] LineEnd.chars, [], mode.scanner, rfl, .nil, ?_⟩
      rw [List.append_assoc]
      exact .step taken kind visible ends
    by_cases keeps : ending = none ∨ parts ≠ [] ∨
        Part.ownsEnd final ⟨step.kind, c :: rest.take step.more, none⟩ = false
    · have kept : Part.content ⟨step.kind, c :: rest.take step.more, none⟩ =
          c :: rest.take step.more := List.append_nil _
      rw [withEnd_cons keeps, placeOnto_cons, kept] at split
      cases before with
      | nil =>
        obtain ⟨rfl, -⟩ := List.cons.inj split
        exact first rfl (@Token.visible_eq _ _ none textFree kept.symm)
      | cons own before =>
        obtain ⟨rfl, later⟩ := List.cons.inj split
        have found := ih leftFree (fun more => (nextSettled.resolve_right more).1) later
        rw [cut, List.append_assoc]
        have reads := piece.reads
        rw [← List.append_assoc] at reads
        exact found.append (List.flatMap_singleton ..) reads
    · push Not at keeps
      obtain ⟨ended, rfl, owns⟩ := keeps
      obtain ⟨ending, rfl⟩ := Option.ne_none_iff_exists'.mp ended
      obtain ⟨-, rfl⟩ := tail.eq_nil
      have given : withEnd step.mode (some ending) [⟨step.kind, c :: rest.take step.more, none⟩] =
          [⟨step.kind, c :: rest.take step.more, some ending⟩] := by
        simp [withEnd, endParts, owns]
      rw [given, placeOnto_cons] at split
      cases before with
      | nil =>
        obtain ⟨rfl, -⟩ := List.cons.inj split
        exact first rfl (@Token.visible_eq _ _ (some ending) textFree rfl)
      | cons own before => cases before <;> cases (List.cons.inj split).2

/-- Every token of a line is found in it, read from the mode that the line starts in. -/
private theorem Line.foundIn {tabWidth number : Nat} {mode : Mode} {line : Line}
    (free : BreakFree line.body) (whole : line.ending = none → ahead = [])
    (split : (line.tokens tabWidth number mode).1 = before ++ token :: after) :
    token.FoundIn before mode.scanner line.text ahead := by
  obtain ⟨parts, final, scanned, given⟩ := line.parts_scanned mode
  rw [Line.tokens, given] at split
  refine scanned.foundIn free ?_ (fun _ => rfl) split
  cases ended : line.ending with
  | none => simpa [whole ended] using AtLineEnd.nil
  | some ending => exact ending.atLineEnd ahead

end Line

/-- Every token of a source is found in it. -/
private theorem Line.Cut.foundIn {source : List Char} {lines : List Line}
    (cut : Line.Cut source lines)
    {tabWidth number : Nat} {mode : Mode} {before after : List Token} {token : Token}
    (split : (tokenGroups tabWidth number mode lines).flatten = before ++ token :: after) :
    token.FoundIn before mode.scanner source [] := by
  induction cut generalizing number mode before with
  | nil => cases before <;> cases split
  | @last body visible free =>
    have found := @Line.foundIn [] token before after tabWidth number mode ⟨body, none⟩ free
      (fun _ => rfl) (by simpa [tokenGroups] using split)
    simpa [Line.text, Line.endChars] using found
  | @line body rest ending lines free _ tail ih =>
    rw [tokenGroups, List.flatten_cons] at split
    have behind {more : List Token}
        (later : (tokenGroups tabWidth (number + 1) (Line.parts mode ⟨body, some ending⟩).2
          lines).flatten = more ++ token :: after) :
        token.FoundIn ((Line.tokens tabWidth number mode ⟨body, some ending⟩).1 ++ more)
          mode.scanner (body ++ ending.chars ++ rest) [] := by
      obtain ⟨next, traced, closed⟩ :=
        @Line.traced tabWidth number mode ⟨body, some ending⟩ rest free (by simp)
      obtain rfl := closed (by simp)
      obtain ⟨marks, reads⟩ := traced.reads
      have content := (@Line.tokens_laid tabWidth number mode ⟨body, some ending⟩
        (by simp [Line.text, Line.endChars, ending.chars_ne_nil])).flatMap_content
      exact (ih later).append content (by simpa [Line.text, Line.endChars] using reads)
    rcases List.append_eq_append_iff.mp split with ⟨more, rfl, later⟩ | ⟨own, group, later⟩
    · exact behind later
    · cases own with
      | nil =>
        rw [List.append_nil] at group
        have found := @behind [] later.symm
        rwa [List.append_nil, group] at found
      | cons first own =>
        obtain ⟨rfl, -⟩ := List.cons.inj later
        exact (Line.foundIn free (by simp) group).whole

/-- A token of a stream at its place: where it comes from. -/
theorem TokenStream.ofSource_origin {source : List Char} {tabWidth : Nat}
    {before after : List Token} {token : Token}
    (split : (ofSource source tabWidth).tokens.toList = before ++ token :: after) :
    token.Origin (Scanner.before source (contentLength before))
      (source.drop (contentLength before)) := by
  rw [ofSource_tokens] at split
  obtain ⟨left, marks, next, whole, reads, origin⟩ := (Line.ofText_cut source).foundIn split
  rw [List.append_nil] at reads origin
  rw [whole, contentLength, List.drop_left, reads.before_eq]
  exact origin

end LineWidth
