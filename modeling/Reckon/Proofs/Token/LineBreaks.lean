import Reckon.Proofs.Token.Lookahead
import Reckon.Proofs.Token.Segmentation

/-!
# Line feeds between two texts

No lexeme contains a line feed, every comment ends in front of one, and what follows it starts a
line of its own. So a text, a line feed and a second text have the tokens of the first text and
then those of the second, with the lines and offsets counted on and the columns unchanged. The
segmentations of the two texts are put together to the one of the whole.
-/

namespace Reckon

/-- The token as many characters and lines further on, in the same column. -/
def Token.further (token : Token) (characters lines : Nat) : Token :=
  { token with
    location := { token.location with
      line := token.location.line + lines
      offset := token.location.offset + characters } }

/-! ## Places -/

/-- Line feeds are found behind others. -/
theorem lastLineFeed_append (front back : List Char) :
    lastLineFeed (front ++ '\n' :: back) = front.length + 1 + lastLineFeed back := by
  have reversed : (front ++ '\n' :: back).reverse = back.reverse ++ '\n' :: front.reverse := by
    simp
  have index : (back.reverse ++ '\n' :: front.reverse).idxOf '\n' = back.reverse.idxOf '\n' := by
    rw [List.idxOf_append]
    split
    · rfl
    · rename_i absent
      rw [List.idxOf_cons_self, Nat.zero_add, List.idxOf_eq_length absent]
  rw [lastLineFeed, lastLineFeed, reversed, index, List.length_append, List.length_cons]
  omega

/-- Places in front of a line feed are those of the text that ends there. -/
theorem placeIn_append_left (file : String) {front : List Char} (back : List Char) {offset : Int}
    (inside : offset.toNat ≤ front.length) :
    placeIn file (front ++ back) offset = placeIn file front offset :=
  placeIn_congr (List.take_append_of_le_length inside) file

/-- Places behind a line feed are those of the text that begins there, with the lines and the
characters in front of it counted in. -/
theorem placeIn_append_right (file : String) (front back : List Char) {offset : Int}
    (notNegative : 0 ≤ offset) :
    let place := placeIn file back offset
    placeIn file (front ++ '\n' :: back) (offset + (front.length + 1 : Nat)) =
      { place with
        line := place.line + (front.count '\n' + 1 : Nat)
        offset := place.offset + (front.length + 1 : Nat) } := by
  have taken : (front ++ '\n' :: back).take (offset + (front.length + 1 : Nat)).toNat =
      front ++ '\n' :: back.take offset.toNat := by
    have count : (offset + (front.length + 1 : Nat)).toNat =
        front.length + (offset.toNat + 1) := by omega
    rw [count, List.take_length_add_append, List.take_succ_cons]
  simp only [placeIn, taken, lastLineFeed_append, List.count_append, List.count_cons_self,
    Location.mk.injEq, true_and, and_true]
  constructor <;> omega

/-! ## Gaps and lexemes in front of a line feed -/

/-- What ends in front of a line feed is no part of a word or a number. -/
theorem head?_append_lineFeed {test : Char → Bool} (fails : test '\n' = false)
    {behind : List Char} (ends : ∀ next, behind.head? = some next → test next = false)
    (back : List Char) (next : Char) (first : (behind ++ '\n' :: back).head? = some next) :
    test next = false := by
  cases behind with
  | nil =>
    cases first
    exact fails
  | cons c rest => exact ends next first

/-- A lexeme in front of a text is one in front of the text with a line feed behind it. -/
theorem IsLexeme.append_lineFeed {kind : TokenKind} {lexeme behind : List Char}
    (isLexeme : IsLexeme kind lexeme behind) (back : List Char) :
    IsLexeme kind lexeme (behind ++ '\n' :: back) := by
  cases isLexeme with
  | word letter parts ends =>
    exact .word letter parts (head?_append_lineFeed (by decide) ends back)
  | number parts ends => exact .number parts (head?_append_lineFeed (by decide) ends back)
  | symbol symbol => exact .symbol symbol

/-- A gap in front of a text is one in front of the text with a line feed behind it. -/
theorem IsGap.append_lineFeed {gap behind : List Char} (isGap : IsGap gap behind)
    (back : List Char) : IsGap gap (behind ++ '\n' :: back) := by
  induction isGap with
  | nothing behind => exact .nothing _
  | blank blank _ inductionHypothesis => exact .blank blank inductionHypothesis
  | @comment content gap behind inside ends _ inductionHypothesis =>
    refine .comment inside ?_ inductionHypothesis
    intro next first
    rw [← List.append_assoc] at first
    cases whole : gap ++ behind with
    | nil =>
      rw [whole] at first
      cases first
      decide
    | cons c rest =>
      rw [whole] at first
      exact ends next (whole ▸ first)

/-- A gap at the end of a text, a line feed and a gap are a gap. -/
theorem IsGap.append_gap {gap later behind : List Char} (isGap : IsGap gap [])
    (more : IsGap later behind) : IsGap (gap ++ '\n' :: later) behind := by
  generalize nothing : ([] : List Char) = ending at isGap
  induction isGap with
  | nothing _ => exact .blank (by decide) more
  | blank blank _ inductionHypothesis => exact .blank blank (inductionHypothesis nothing)
  | @comment content gap _ inside ends _ inductionHypothesis =>
    subst nothing
    rw [List.append_assoc]
    refine .comment inside ?_ (inductionHypothesis rfl)
    intro next first
    rw [List.append_nil] at ends
    cases gap with
    | nil =>
      cases first
      decide
    | cons c rest => exact ends next first

/-! ## Segmentations -/

/-- Offsets behind a line are counted from the next line on. -/
theorem drop_behind (front back : List Char) (count : Nat) :
    (front ++ '\n' :: back).drop (count + (front.length + 1)) = back.drop count := by
  have order : count + (front.length + 1) = front.length + (count + 1) := by omega
  rw [order, List.drop_length_add_append, List.drop_succ_cons]

/-- The span as many characters further on. -/
def spanFurther (characters : Nat) (span : Nat × Nat) : Nat × Nat :=
  (span.1 + characters, span.2 + characters)

namespace Token.IsStretch

variable {token : Token} {file : String} {source : List Char}

/-- A token ends within the text. -/
theorem span_le_length (stretch : token.IsStretch file source) : token.span.2 ≤ source.length := by
  have begins := stretch.lt_length
  have length := congrArg List.length stretch.drop_eq
  have span : token.span.2 = token.span.1 + token.lexeme.toList.length := rfl
  rw [List.length_append, List.length_drop, List.length_drop] at length
  omega

/-- The lexeme of a stretch may be told by the text behind it. -/
theorem of_drop_eq (inside : 0 ≤ token.location.offset)
    (place : token.location = placeIn file source token.location.offset)
    (same : source.drop token.span.1 = token.lexeme.toList ++ source.drop token.span.2)
    (whole : IsLexeme token.kind token.lexeme.toList (source.drop token.span.2)) :
    token.IsStretch file source := by
  refine ⟨inside, place, ?_, whole⟩
  have size : token.span.2 - token.span.1 = token.lexeme.toList.length :=
    Nat.add_sub_cancel_left ..
  rw [List.extract_eq_take_drop, same, size, List.take_left]

end Token.IsStretch

section

variable {file : String} {front back : List Char}

/-- A stretch of the text in front of a line feed. -/
theorem Token.IsStretch.append_left {token : Token} (stretch : token.IsStretch file front)
    (back : List Char) : token.IsStretch file (front ++ '\n' :: back) := by
  have begins := Nat.le_of_lt stretch.lt_length
  have ends := stretch.span_le_length
  apply Token.IsStretch.of_drop_eq stretch.inside
  · rw [placeIn_append_left file _ begins]
    exact stretch.place
  · rw [List.drop_append_of_le_length begins, List.drop_append_of_le_length ends, stretch.drop_eq,
      List.append_assoc]
  · rw [List.drop_append_of_le_length ends]
    exact stretch.whole.append_lineFeed back

/-- The span of a token that has been moved is its moved span. -/
theorem Token.span_further {token : Token} (notNegative : 0 ≤ token.location.offset)
    (characters lines : Nat) :
    (token.further characters lines).span = spanFurther characters token.span := by
  have begins : (token.location.offset + characters).toNat =
      token.location.offset.toNat + characters := by omega
  rw [span, further, begins, spanFurther, span, Nat.add_right_comm]

/-- A stretch of the text behind a line feed. -/
theorem Token.IsStretch.append_right {token : Token} (stretch : token.IsStretch file back)
    (front : List Char) :
    (token.further (front.length + 1) (front.count '\n' + 1)).IsStretch file
      (front ++ '\n' :: back) := by
  have inside := stretch.inside
  have span := token.span_further inside (front.length + 1) (front.count '\n' + 1)
  apply Token.IsStretch.of_drop_eq
  · change 0 ≤ token.location.offset + (front.length + 1 : Nat)
    omega
  · change _ = placeIn file _ (token.location.offset + (front.length + 1 : Nat))
    rw [placeIn_append_right file front back inside, ← stretch.place]
    rfl
  · rw [span, spanFurther, drop_behind, drop_behind]
    exact stretch.drop_eq
  · rw [span, spanFurther, drop_behind]
    exact stretch.whole

/-- What adjoins in front of a line feed. -/
theorem Adjoins.append_left {left right : Nat × Nat} (adjoins : Adjoins front left right)
    (inside : right.1 ≤ front.length) (back : List Char) :
    Adjoins (front ++ '\n' :: back) left right := by
  obtain ⟨order, gap⟩ := adjoins
  refine ⟨order, ?_⟩
  have taken : (front ++ '\n' :: back).extract left.2 right.1 = front.extract left.2 right.1 := by
    rw [List.extract_eq_take_drop, List.extract_eq_take_drop,
      List.drop_append_of_le_length (Nat.le_trans order inside),
      List.take_append_of_le_length (by rw [List.length_drop]; omega)]
  rw [taken, List.drop_append_of_le_length inside]
  exact gap.append_lineFeed back

/-- What adjoins behind a line feed. -/
theorem Adjoins.append_right {left right : Nat × Nat} (adjoins : Adjoins back left right)
    (front : List Char) :
    Adjoins (front ++ '\n' :: back) (spanFurther (front.length + 1) left)
      (spanFurther (front.length + 1) right) := by
  obtain ⟨order, gap⟩ := adjoins
  refine ⟨Nat.add_le_add_right order _, ?_⟩
  rw [spanFurther, spanFurther, List.extract_eq_take_drop, drop_behind, drop_behind,
    Nat.add_sub_add_right]
  exact gap

/-- What adjoins a line feed behind a gap adjoins what is in front of the gap. -/
theorem Adjoins.across {offset : Nat} {right : Nat × Nat}
    (before : Adjoins front (offset, offset) (front.length, front.length))
    (behind : Adjoins (front ++ '\n' :: back) (front.length + 1, front.length + 1) right) :
    Adjoins (front ++ '\n' :: back) (offset, offset) right := by
  obtain ⟨within, gap⟩ := before
  obtain ⟨order, more⟩ := behind
  have within : offset ≤ front.length := within
  have order : front.length + 1 ≤ right.1 := order
  refine ⟨by change offset ≤ right.1; omega, ?_⟩
  have split : (front ++ '\n' :: back).extract offset right.1 =
      front.extract offset front.length ++
        '\n' :: (front ++ '\n' :: back).extract (front.length + 1) right.1 := by
    have behind := drop_behind front back 0
    rw [Nat.zero_add, List.drop_zero] at behind
    have rest : (front.drop offset).length = front.length - offset := List.length_drop
    have count : right.1 - offset = (front.drop offset).length + (right.1 - (front.length + 1) + 1)
      := by omega
    rw [List.extract_eq_take_drop, List.extract_eq_take_drop, List.extract_eq_take_drop, behind,
      List.drop_append_of_le_length within, count, List.take_length_add_append,
      List.take_succ_cons, ← rest, List.take_length]
  rw [List.drop_length] at gap
  rw [split]
  exact gap.append_gap more

/-- The segmentation of a text is one of the text behind a line feed, further on. -/
theorem IsSegmentation.append_right {offset : Nat} {tokens : List Token}
    (segmentation : IsSegmentation file back offset tokens) (front : List Char) :
    IsSegmentation file (front ++ '\n' :: back) (offset + (front.length + 1))
      (tokens.map fun token => token.further (front.length + 1) (front.count '\n' + 1)) := by
  induction tokens generalizing offset with
  | nil =>
    have last := (isSegmentation_nil_iff.mp segmentation).append_right front
    have length : (front ++ '\n' :: back).length = back.length + (front.length + 1) := by
      rw [List.length_append, List.length_cons]
      omega
    exact isSegmentation_nil_iff.mpr (length ▸ last)
  | cons token tokens inductionHypothesis =>
    obtain ⟨adjoins, stretch, later⟩ := isSegmentation_cons_iff.mp segmentation
    have span := token.span_further stretch.inside (front.length + 1) (front.count '\n' + 1)
    refine isSegmentation_cons_iff.mpr ⟨?_, stretch.append_right front, ?_⟩
    · rw [span]
      exact adjoins.append_right front
    · rw [span]
      exact inductionHypothesis later

/-- **Segmentations are put together at a line feed.** -/
theorem IsSegmentation.append {offset : Nat} {tokens later : List Token}
    (segmentation : IsSegmentation file front offset tokens)
    (behind : IsSegmentation file (front ++ '\n' :: back) (front.length + 1) later) :
    IsSegmentation file (front ++ '\n' :: back) offset (tokens ++ later) := by
  induction tokens generalizing offset with
  | nil =>
    have last := isSegmentation_nil_iff.mp segmentation
    cases later with
    | nil => exact isSegmentation_nil_iff.mpr (last.across (isSegmentation_nil_iff.mp behind))
    | cons token later =>
      obtain ⟨adjoins, stretch, more⟩ := isSegmentation_cons_iff.mp behind
      exact isSegmentation_cons_iff.mpr ⟨last.across adjoins, stretch, more⟩
  | cons token tokens inductionHypothesis =>
    obtain ⟨adjoins, stretch, more⟩ := isSegmentation_cons_iff.mp segmentation
    refine isSegmentation_cons_iff.mpr ⟨?_, stretch.append_left back, inductionHypothesis more⟩
    exact adjoins.append_left (Nat.le_of_lt stretch.lt_length) back

end

/-- No token of a segmentation is the end of input. -/
theorem IsSegmentation.kind_ne {file : String} {source : List Char} {offset : Nat}
    {tokens : List Token} (segmentation : IsSegmentation file source offset tokens) :
    ∀ token ∈ tokens, token.kind ≠ .endOfInput :=
  fun token member => (segmentation.stretches token member).whole.kind_ne

/-- **Lexing is compositional at line feeds.** The tokens of a text, a line feed and a second text
are those of the first text and then those of the second, each as many characters and lines
further on as the first text and the line feed take, and else the same. This holds wherever the
first text ends, also in a comment, a word or a number. -/
theorem tokenize_append_lineFeed (file first second : String) :
    ∃ front back,
      tokenize file first = front ++ [endToken file first.toList] ∧
      tokenize file second = back ++ [endToken file second.toList] ∧
      (∀ token ∈ front ++ back, token.kind ≠ .endOfInput) ∧
      tokenize file (first ++ "\n" ++ second) =
        front ++ back.map (Token.further · (first.length + 1) (first.toList.count '\n' + 1)) ++
          [endToken file (first ++ "\n" ++ second).toList] := by
  obtain ⟨front, read, segmentation⟩ :=
    (tokenize_eq_iff file first (tokenize file first)).mp rfl
  obtain ⟨back, readToo, segmentationToo⟩ :=
    (tokenize_eq_iff file second (tokenize file second)).mp rfl
  refine ⟨front, back, read, readToo, ?_, ?_⟩
  · intro token member
    rcases List.mem_append.mp member with inFront | behind
    · exact segmentation.kind_ne token inFront
    · exact segmentationToo.kind_ne token behind
  · have whole : (first ++ "\n" ++ second).toList = first.toList ++ '\n' :: second.toList := by
      simp
    have behind := segmentationToo.append_right first.toList
    rw [Nat.zero_add] at behind
    refine (tokenize_eq_iff file _ _).mpr ⟨_, rfl, ?_⟩
    rw [whole]
    exact segmentation.append behind

end Reckon
