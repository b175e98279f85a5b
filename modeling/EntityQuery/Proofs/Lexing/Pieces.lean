import EntityQuery.Proofs.Lexing.Lexer
import EntityQuery.Sql.Quoting

/-!
Single lexemes are read back. A name or a string in quotes ends at its closing character, whatever
it holds; a word or a number ends where a character follows that cannot belong to either.
-/

namespace EntityQuery.Sql

open Lexing

namespace Lexing

/-! Where words and numbers end -/

def isStop (c : Char) : Bool := [' ', '\n', ',', '(', ')', '*'].contains c

/-- The text ends here or goes on with a character that belongs to no name, string, word or number
before it. -/
def Stops (r : List Char) : Prop := ∀ c ∈ r.head?, isStop c = true

theorem stops_nil : Stops [] := by simp [Stops]

theorem eq_of_isStop {c : Char} (h : isStop c = true) :
    c = ' ' ∨ c = '\n' ∨ c = ',' ∨ c = '(' ∨ c = ')' ∨ c = '*' := by
  simpa [isStop] using h

variable {r : List Char} {p : Char → Bool}

/-- What `p` holds of ends at a stop if `p` holds of none of them. -/
theorem Stops.head_not (h : Stops r) (hp : ∀ c, isStop c = true → p c = false) :
    ∀ c ∈ r.head?, p c = false := fun c hc => hp c (h c hc)

theorem takeWhile_append_of_head {s : List Char} (hs : ∀ c ∈ s, p c = true)
    (hr : ∀ c ∈ r.head?, p c = false) : (s ++ r).takeWhile p = s := by
  rw [List.takeWhile_append_of_pos hs]
  cases r with
  | nil => simp
  | cons c r => simp [hr c rfl]

theorem dropWhile_append_of_head {s : List Char} (hs : ∀ c ∈ s, p c = true)
    (hr : ∀ c ∈ r.head?, p c = false) : (s ++ r).dropWhile p = r := by
  rw [List.dropWhile_append_of_pos hs]
  cases r with
  | nil => rfl
  | cons c r => simp [hr c rfl]

theorem isDigit_of_isStop {c : Char} (h : isStop c = true) : c.isDigit = false := by
  rcases eq_of_isStop h with rfl | rfl | rfl | rfl | rfl | rfl <;> rfl

theorem isWordPart_of_isStop {c : Char} (h : isStop c = true) : isWordPart c = false := by
  rcases eq_of_isStop h with rfl | rfl | rfl | rfl | rfl | rfl <;> rfl

def isWord : List Char → Bool
  | [] => false
  | c :: cs => isWordStart c && cs.all isWordPart

/-! Quoted text -/

theorem quoted_cons {closing c : Char} {escapes : Bool} (hc : c ≠ closing)
    (he : (escapes && c == '\\') = false) (cs : List Char) :
    quoted closing escapes (c :: cs) = before c (quoted closing escapes cs) := by
  rw [quoted.eq_def]
  simp [hc, he]

/-- The characters that a quoted text writes twice are those that do not stand for themselves. -/
theorem quoted_doubled {closing : Char} {escapes : Bool} {special : Char → Bool}
    (hspecial : ∀ c, special c = (c == closing || (escapes && c == '\\')))
    (s : List Char) (hr : ∀ c ∈ r.head?, c ≠ closing) :
    quoted closing escapes (Dialect.doubled special s ++ closing :: r) = some (s, r) := by
  induction s with
  | nil =>
    cases r with
    | nil => simp [Dialect.doubled, quoted]
    | cons c r =>
      have hc : c ≠ closing := hr c rfl
      simp [Dialect.doubled, quoted, hc]
  | cons c s ih =>
    have hsplit : Dialect.doubled special (c :: s) ++ closing :: r =
        (if special c then [c, c] else [c]) ++ (Dialect.doubled special s ++ closing :: r) := by
      simp [Dialect.doubled]
    rw [hsplit]
    by_cases hc : c = closing
    · have hs : special c = true := by simp [hspecial, hc]
      rw [if_pos hs, hc]
      simp only [List.cons_append, List.nil_append, quoted, if_true, ih, before, Option.map_some]
    · by_cases he : (escapes && c == '\\') = true
      · have hs : special c = true := by simp [hspecial, he]
        rw [if_pos hs]
        simp only [List.cons_append, List.nil_append, quoted, if_neg hc, if_pos he, ih, before,
          Option.map_some]
      · have hs : ¬ special c = true := by simp [hspecial, he, hc]
        rw [if_neg hs, List.singleton_append, quoted_cons hc (Bool.eq_false_iff.2 he), ih]
        rfl

end Lexing

namespace Dialect

variable {d : Dialect} {r : List Char}

theorem nameDelimiters_eq (d : Dialect) : d.nameDelimiters = delimiters d := by
  cases d <;> rfl

theorem lexeme_quoteName (s : String) (hr : ∀ c ∈ r.head?, c ≠ (delimiters d).2) :
    d.lexeme ((d.quoteName s).toList ++ r) = some (.name s, r) := by
  have ht : (d.quoteName s).toList ++ r = (delimiters d).1 ::
      (doubled (· == (delimiters d).2) s.toList ++ (delimiters d).2 :: r) := by
    simp [quoteName, nameDelimiters_eq]
  have hq : quoted (delimiters d).2 false (doubled (· == (delimiters d).2) s.toList ++
      (delimiters d).2 :: r) = some (s.toList, r) := quoted_doubled (fun c => by simp) s.toList hr
  rw [ht, lexeme, if_pos rfl, hq]
  simp [tagged]

theorem lexeme_quoteString (s : String) (hr : ∀ c ∈ r.head?, c ≠ '\'') :
    d.lexeme ((d.quoteString s).toList ++ r) = some (.text s, r) := by
  have hq : quoted '\'' (d == .mysql) (doubled d.doubledInString s.toList ++ '\'' :: r) =
      some (s.toList, r) := quoted_doubled (fun c => by simp [doubledInString]) s.toList hr
  by_cases hn : (d == .tsql && !isAscii s) = true
  · have ht : (d.quoteString s).toList ++ r =
        'N' :: '\'' :: (doubled d.doubledInString s.toList ++ '\'' :: r) := by
      simp [quoteString, stringLiteral, hn]
    obtain ⟨hd, -⟩ := Bool.and_eq_true_iff.1 hn
    obtain rfl : d = .tsql := by simpa using hd
    have hl (cs : List Char) : tsql.lexeme ('N' :: '\'' :: cs) =
        tagged .text (quoted '\'' (tsql == mysql) cs) := rfl
    rw [ht, hl, hq]
    simp [tagged]
  · have ht : (d.quoteString s).toList ++ r =
        '\'' :: (doubled d.doubledInString s.toList ++ '\'' :: r) := by
      simp [quoteString, stringLiteral, hn]
    have hd : '\'' ≠ (delimiters d).1 := by cases d <;> decide
    rw [ht, lexeme, if_neg hd, if_pos rfl, hq]
    simp [tagged]

/-! Words -/

theorem lexeme_word {w : List Char} (hw : isWord w = true) (hr : Stops r) :
    d.lexeme (w ++ r) = some (.word (String.ofList w), r) := by
  cases w with
  | nil => cases hw
  | cons c w =>
    obtain ⟨hc, hw⟩ := Bool.and_eq_true_iff.1 hw
    rw [List.all_eq_true] at hw
    have hparts := hr.head_not fun c => isWordPart_of_isStop
    have hd : c ≠ (delimiters d).1 := by
      rintro rfl
      cases d <;> cases hc
    have hq : c ≠ '\'' := by
      rintro rfl
      cases hc
    have hn : ((w ++ r).head? == some '\'') = false := by
      rw [beq_eq_false_iff_ne]
      cases w with
      | nil =>
        rw [List.nil_append]
        intro h
        have hs := hr _ h
        cases hs
      | cons x w =>
        rintro ⟨⟩
        have hx := hw '\'' (.head _)
        cases hx
    rw [List.cons_append, lexeme, if_neg hd, if_neg hq, hn, Bool.and_false,
      if_neg Bool.false_ne_true, if_pos hc, takeWhile_append_of_head hw hparts,
      dropWhile_append_of_head hw hparts]
    rfl

end Dialect

end EntityQuery.Sql
