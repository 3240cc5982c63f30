import Mathlib.Data.List.TakeWhile
import Mathlib.Tactic.SplitIfs
import Reconciliation.Json.Reader
import Reconciliation.Json.Writer

/-!
# Compact text reads back

Writing loses nothing that a reader can hold: the compact text of a value is taken apart into the
parts of the value. The reader works with a bounded number of steps and looks one character ahead,
so what it makes of a value is proved with anything behind the value that does not continue a
number.

* `Number.IsLegible` -- the number is read from its digits; integers of 64 bits are
  (`Json.isLegible_int`), while a float may be read as one of its neighbours;
* `Json.Legible` -- what else a reader asks for: not too many containers within each other;
* `Json.readText_inner`, `Json.readValue_chars` -- texts and values with something behind them;
* **`Json.ofText?_compact`** -- the compact text of a legible value reads as the value.
-/

namespace Reconciliation

/-- Whether a number is read back from its text. -/
def Number.IsLegible (n : Number) : Prop :=
  Json.readNumber (Json.numberText n).toList = some (.num n, [])

namespace Json

/-! ## 1. Numbers -/

/-- What may follow a number: nothing that continues it. -/
def Ends (back : List Char) : Prop :=
  ∀ c ∈ back.head?, c.isDigit = false ∧ c ≠ '.' ∧ c ≠ 'e' ∧ c ≠ 'E'

section

variable {back : List Char} (hb : Ends back)

theorem takeWhile_append_of_head {p : Char → Bool} (h : ∀ c ∈ back.head?, p c = false)
    (cs : List Char) : (cs ++ back).takeWhile p = cs.takeWhile p := by
  induction cs with
  | nil =>
    cases back with
    | nil => rfl
    | cons c back => simp [h c rfl]
  | cons c cs ih => by_cases hc : p c = true <;> simp [hc, ih]

theorem dropWhile_append_of_head {p : Char → Bool} (h : ∀ c ∈ back.head?, p c = false)
    (cs : List Char) : (cs ++ back).dropWhile p = cs.dropWhile p ++ back := by
  induction cs with
  | nil =>
    cases back with
    | nil => rfl
    | cons c back => simp [h c rfl]
  | cons c cs ih => by_cases hc : p c = true <;> simp [hc, ih]

include hb

theorem Ends.takeWhile (cs : List Char) :
    (cs ++ back).takeWhile Char.isDigit = cs.takeWhile Char.isDigit :=
  takeWhile_append_of_head (fun c hc => (hb c hc).1) cs

theorem Ends.dropWhile (cs : List Char) :
    (cs ++ back).dropWhile Char.isDigit = cs.dropWhile Char.isDigit ++ back :=
  dropWhile_append_of_head (fun c hc => (hb c hc).1) cs

theorem readFraction_append {cs digits rest : List Char}
    (h : readFraction cs = some (digits, rest)) :
    readFraction (cs ++ back) = some (digits, rest ++ back) := by
  by_cases hdot : cs.head? = some '.'
  · obtain ⟨cs, rfl⟩ := List.head?_eq_some_iff.1 hdot
    simp only [readFraction, List.cons_append, hb.takeWhile, hb.dropWhile] at h ⊢
    split at h
    · cases h
    · rename_i hd
      rw [if_neg hd]
      cases h
      rfl
  · have hnone : ∀ {cs : List Char}, cs.head? ≠ some '.' → readFraction cs = some ([], cs) := by
      intro cs hne
      unfold readFraction
      split
      · exact absurd rfl hne
      · rfl
    rw [hnone hdot] at h
    cases h
    refine hnone ?_
    cases cs with
    | nil => exact fun hc => (hb '.' hc).2.1 rfl
    | cons c cs => exact hdot

/-- The sign of an exponent, and what follows it. -/
def exponentSign : List Char → Int × List Char
  | '-' :: rest => (-1, rest)
  | '+' :: rest => (1, rest)
  | rest => (1, rest)

omit hb in
theorem readExponent_cons (c : Char) (rest : List Char) :
    readExponent (c :: rest) =
      if c = 'e' ∨ c = 'E' then
        if ((exponentSign rest).2.takeWhile Char.isDigit).isEmpty then none
        else some (some ((exponentSign rest).1 *
          Digits.value ((exponentSign rest).2.takeWhile Char.isDigit)),
          (exponentSign rest).2.dropWhile Char.isDigit)
      else some (none, c :: rest) := rfl

omit hb in
theorem exponentSign_append {cs : List Char} (h : cs ≠ []) :
    exponentSign (cs ++ back) = ((exponentSign cs).1, (exponentSign cs).2 ++ back) := by
  cases cs with
  | nil => exact absurd rfl h
  | cons c cs =>
    unfold exponentSign
    split <;> simp_all

theorem readExponent_append {cs rest : List Char} {exponent : Option Int}
    (h : readExponent cs = some (exponent, rest)) :
    readExponent (cs ++ back) = some (exponent, rest ++ back) := by
  cases cs with
  | nil =>
    cases h
    cases back with
    | nil => rfl
    | cons c back =>
      obtain ⟨-, -, he, hE⟩ := hb c rfl
      simp [readExponent_cons, he, hE]
  | cons c cs =>
    rw [List.cons_append]
    rw [readExponent_cons] at h ⊢
    by_cases hc : c = 'e' ∨ c = 'E'
    · rw [if_pos hc] at h ⊢
      have hne : cs ≠ [] := by
        rintro rfl
        cases h
      rw [exponentSign_append hne, hb.takeWhile, hb.dropWhile]
      split at h
      · cases h
      · rename_i hd
        rw [if_neg hd]
        cases h
        rfl
    · rw [if_neg hc] at h ⊢
      cases h
      rfl

/-- The sign of a number, and what follows it. -/
def numberSign : List Char → Bool × List Char
  | '-' :: rest => (true, rest)
  | rest => (false, rest)

omit hb in
theorem readNumber_eq (cs : List Char) :
    readNumber cs =
      let whole := (numberSign cs).2.takeWhile Char.isDigit
      if whole.isEmpty || (whole.head? = some '0' && 1 < whole.length) then none
      else
        (readFraction ((numberSign cs).2.dropWhile Char.isDigit)).bind fun (fraction, cs') =>
          (readExponent cs').bind fun (exponent, rest) =>
            some ((number? (numberSign cs).1 whole fraction exponent).elim .unreadable .num,
              rest) := by
  unfold readNumber
  split
  rename_i negative cs' hsign
  have hsign : numberSign cs = (negative, cs') := hsign
  rw [hsign]
  dsimp only
  split <;> rfl

omit hb in
theorem numberSign_append {cs : List Char} (h : cs ≠ []) :
    numberSign (cs ++ back) = ((numberSign cs).1, (numberSign cs).2 ++ back) := by
  cases cs with
  | nil => exact absurd rfl h
  | cons c cs =>
    unfold numberSign
    split <;> simp_all

theorem readNumber_append {cs : List Char} {r : RawJson} (h : readNumber cs = some (r, [])) :
    readNumber (cs ++ back) = some (r, back) := by
  have hne : cs ≠ [] := by
    rintro rfl
    cases h
  rw [readNumber_eq] at h ⊢
  rw [numberSign_append hne]
  simp only [hb.takeWhile, hb.dropWhile] at h ⊢
  split at h
  · cases h
  · rename_i hw
    rw [if_neg hw]
    obtain ⟨⟨fraction, cs'⟩, hf, h⟩ := Option.bind_eq_some_iff.1 h
    obtain ⟨⟨exponent, rest⟩, he, h⟩ := Option.bind_eq_some_iff.1 h
    cases h
    rw [readFraction_append hb hf, Option.bind_some, readExponent_append hb he]
    rfl

end

/-- No number but zero is written with a zero in front. -/
theorem eq_zero_of_head?_toDigits (n : Nat) (h : (Nat.toDigits 10 n).head? = some '0') :
    n = 0 := by
  induction n using Nat.strongRecOn with
  | ind n ih =>
    by_cases hn : n < 10
    · rw [Nat.toDigits_of_lt_base hn] at h
      have hdigit : ∀ d < 10, Nat.digitChar d = '0' → d = 0 := by decide
      exact hdigit n hn (Option.some.inj h)
    · rw [Nat.toDigits_of_base_le (by omega) (by omega), List.head?_append,
        List.head?_eq_some_head Nat.toDigits_ne_nil] at h
      have hzero := ih (n / 10) (by omega)
        (by rw [List.head?_eq_some_head Nat.toDigits_ne_nil]; exact h)
      omega

/-- The digits of a number, as they are read. -/
theorem readNumber_toDigits (n : Nat) (cs : List Char)
    (hcs : (numberSign cs).2 = Nat.toDigits 10 n) :
    readNumber cs =
      some ((number? (numberSign cs).1 (Nat.toDigits 10 n) [] none).elim .unreadable .num, []) := by
  have hdigits : ∀ c ∈ Nat.toDigits 10 n, c.isDigit = true :=
    fun c hc => Nat.isDigit_of_mem_toDigits (by omega) (by omega) hc
  have htake : (Nat.toDigits 10 n).takeWhile Char.isDigit = Nat.toDigits 10 n :=
    List.takeWhile_eq_self_iff.2 hdigits
  have hdrop : (Nat.toDigits 10 n).dropWhile Char.isDigit = [] :=
    List.dropWhile_eq_nil_iff.2 hdigits
  rw [readNumber_eq, hcs]
  simp only [htake, hdrop]
  rw [if_neg]
  · rfl
  · have hzero : (Nat.toDigits 10 n).head? = some '0' → (Nat.toDigits 10 n).length = 1 := by
      intro h
      rw [eq_zero_of_head?_toDigits n h]
      rfl
    have hne : Nat.toDigits 10 n ≠ [] := Nat.toDigits_ne_nil
    simp only [Bool.or_eq_true, Bool.and_eq_true, decide_eq_true_eq, List.isEmpty_iff]
    rintro (h | ⟨h, hlt⟩)
    · exact hne h
    · have := hzero h
      omega

theorem value_toDigits (n : Nat) : Digits.value (Nat.toDigits 10 n) = n := by
  rw [Digits.value_eq_ofDigitChars, Nat.ofDigitChars_ten_toDigits]

theorem isLegible_int {n : Int} (hmin : Int64.minValue.toInt ≤ n) (hmax : n < UInt64.size) :
    (Number.int n).IsLegible := by
  unfold Number.IsLegible
  cases n with
  | ofNat n =>
    have htext : (numberText (.int (.ofNat n))).toList = Nat.toDigits 10 n := by
      show (toString n).toList = _
      rw [Nat.toString_eq_ofList_toDigits, String.toList_ofList]
    have hsign : numberSign (Nat.toDigits 10 n) = (false, Nat.toDigits 10 n) := by
      unfold numberSign
      split
      · rename_i rest h
        have hd : '-'.isDigit = true :=
          Nat.isDigit_of_mem_toDigits (b := 10) (n := n) (by omega) (by omega) (by rw [h]; simp)
        cases hd
      · rfl
    have hnumber : number? false (Nat.toDigits 10 n) [] none = some (.int n) := by
      have hlt : (n : Int) < UInt64.size := hmax
      have hle : Int64.minValue.toInt ≤ (n : Int) := hmin
      simp only [number?, value_toDigits, Bool.false_eq_true, if_false, hlt, hle]
      rfl
    rw [htext, readNumber_toDigits n _ (by rw [hsign]), hsign, hnumber]
    rfl
  | negSucc n =>
    have htext : (numberText (.int (.negSucc n))).toList = '-' :: Nat.toDigits 10 (n + 1) := by
      show ("-" ++ Nat.repr (n + 1)).toList = _
      simp [Nat.repr_eq_ofList_toDigits]
    have hnumber : number? true (Nat.toDigits 10 (n + 1)) [] none = some (.int (.negSucc n)) := by
      have hlt : -((n + 1 : Nat) : Int) < UInt64.size := hmax
      have hle : Int64.minValue.toInt ≤ -((n + 1 : Nat) : Int) := hmin
      simp only [number?, value_toDigits, if_true, hlt, hle]
      rfl
    rw [htext, readNumber_toDigits (n + 1) _ rfl]
    have hsign : (numberSign ('-' :: Nat.toDigits 10 (n + 1))).1 = true := rfl
    rw [hsign, hnumber]
    rfl

/-! ## 2. Texts -/

/-- The piece stands for the character. -/
def TextPiece.Spells (piece : TextPiece) (c : Char) : Prop :=
  ∀ rest, spelled? (piece :: rest) = (spelled? rest).map (c :: ·)

theorem hexValue?_hexDigit {n : Nat} (h : n < 16) : Digits.hexValue? (hexDigit n) = some n := by
  have hall : ∀ d < 16, Digits.hexValue? (hexDigit d) = some d := by decide
  exact hall n h

theorem unit?_hexDigit {n : Nat} (h : n < 0x20) :
    unit? '0' '0' (hexDigit (n / 16)) (hexDigit (n % 16)) = some n := by
  have hzero : Digits.hexValue? '0' = some 0 := by decide
  simp only [unit?, hzero, hexValue?_hexDigit (show n / 16 < 16 by omega),
    hexValue?_hexDigit (show n % 16 < 16 by omega), Option.bind_eq_bind, Option.bind_some,
    Option.some.injEq]
  omega

/-- What the reader makes of a character behind a backslash. -/
theorem readPieces_letter {c letter : Char} (hu : letter ≠ 'u') (h : escaped? letter = some c)
    (n : Nat) (acc : List TextPiece) (rest : List Char) :
    readPieces (n + 1) acc ('\\' :: letter :: rest) = readPieces n (.char c :: acc) rest := by
  rw [readPieces, h]
  · rfl
  · exact fun _ _ _ _ _ hc => absurd hc hu

/-- What the reader makes of a character that stands for itself. -/
theorem readPieces_char {c : Char} (hquote : c ≠ '"') (hslash : c ≠ '\\') (h : ¬c.toNat < 0x20)
    (n : Nat) (acc : List TextPiece) (rest : List Char) :
    readPieces (n + 1) acc (c :: rest) = readPieces n (.char c :: acc) rest := by
  rw [readPieces]
  · exact if_neg h
  · exact fun hc => absurd hc hquote
  · exact fun _ _ _ _ _ hc => absurd hc hslash
  · exact fun _ _ hc => absurd hc hslash

/-- A written character is one piece for the reader. -/
theorem exists_piece (c : Char) : ∃ piece : TextPiece, piece.Spells c ∧
    ∀ n acc rest, readPieces (n + 1) acc ((escape c).toList ++ rest) =
      readPieces n (piece :: acc) rest := by
  unfold escape
  split_ifs with hquote hslash hline hreturn htab hback hform hcontrol
  · exact ⟨.char c, fun _ => rfl, readPieces_letter (by decide) (by rw [hquote]; rfl)⟩
  · exact ⟨.char c, fun _ => rfl, readPieces_letter (by decide) (by rw [hslash]; rfl)⟩
  · exact ⟨.char c, fun _ => rfl, readPieces_letter (by decide) (by rw [hline]; rfl)⟩
  · exact ⟨.char c, fun _ => rfl, readPieces_letter (by decide) (by rw [hreturn]; rfl)⟩
  · exact ⟨.char c, fun _ => rfl, readPieces_letter (by decide) (by rw [htab]; rfl)⟩
  · exact ⟨.char c, fun _ => rfl, readPieces_letter (by decide) (by rw [hback]; rfl)⟩
  · exact ⟨.char c, fun _ => rfl, readPieces_letter (by decide) (by rw [hform]; rfl)⟩
  · refine ⟨.unit c.toNat, fun rest => ?_, fun n acc rest => ?_⟩
    · rw [spelled?.eq_def]
      dsimp only
      rw [if_pos (.inl (by omega)), Char.ofNat_toNat]
    · rw [String.toList_append, String.toList_ofList, String.toList_ofList]
      show (unit? '0' '0' (hexDigit (c.toNat / 16)) (hexDigit (c.toNat % 16))).bind _ = _
      rw [unit?_hexDigit hcontrol]
      rfl
  · refine ⟨.char c, fun _ => rfl, fun n acc rest => ?_⟩
    rw [String.toList_singleton]
    exact readPieces_char hquote hslash hcontrol n acc rest

/-- The characters of a text between its quotes. -/
def inner (s : String) : List Char := s.toList.flatMap fun c => (escape c).toList

theorem toList_quote (s : String) : (quote s).toList = '"' :: (inner s ++ ['"']) := by
  have hfold : ∀ (cs : List Char) (acc : String),
      (cs.foldl (fun acc c => acc ++ escape c) acc).toList =
        acc.toList ++ cs.flatMap fun c => (escape c).toList := by
    intro cs
    induction cs with
    | nil => simp
    | cons c cs ih => simp [ih]
  unfold quote inner
  rw [String.toList_append, String.foldl_eq_foldl_toList, hfold]
  rfl

theorem readPieces_inner (cs : List Char) (n : Nat) (acc : List TextPiece) (back : List Char)
    (hn : cs.length < n) :
    ∃ pieces, readPieces n acc ((cs.flatMap fun c => (escape c).toList) ++ '"' :: back) =
      some (acc.reverse ++ pieces, back) ∧ spelled? pieces = some cs := by
  induction cs generalizing n acc with
  | nil =>
    obtain ⟨n, rfl⟩ : ∃ m, n = m + 1 := ⟨n - 1, by simp at hn; omega⟩
    exact ⟨[], by simp [readPieces], rfl⟩
  | cons c cs ih =>
    obtain ⟨n, rfl⟩ : ∃ m, n = m + 1 := ⟨n - 1, by simp at hn; omega⟩
    obtain ⟨piece, hspells, hread⟩ := exists_piece c
    obtain ⟨pieces, hpieces, hspelled⟩ := ih n (piece :: acc) (by simpa using hn)
    refine ⟨piece :: pieces, ?_, ?_⟩
    · rw [List.flatMap_cons, List.append_assoc, hread, hpieces]
      simp
    · rw [hspells, hspelled]
      rfl

/-- **A written text is read back.** -/
theorem readText_inner (s : String) (n : Nat) (back : List Char) (hn : s.toList.length < n) :
    readText n (inner s ++ '"' :: back) = some (some s, back) := by
  obtain ⟨pieces, hpieces, hspelled⟩ := readPieces_inner s.toList n [] back hn
  unfold readText inner
  rw [hpieces]
  simp [hspelled]

theorem length_le_inner (s : String) : s.toList.length ≤ (inner s).length := by
  have hpos : ∀ c, 1 ≤ (escape c).toList.length := by
    intro c
    unfold escape
    split_ifs <;> simp
  unfold inner
  induction s.toList with
  | nil => simp
  | cons c cs ih =>
    have := hpos c
    simp only [List.length_cons, List.flatMap_cons, List.length_append]
    omega

/-! ## 3. Values -/

mutual

/-- The characters of the compact text of a value. -/
def chars : Json → List Char
  | null => ['n', 'u', 'l', 'l']
  | bool true => ['t', 'r', 'u', 'e']
  | bool false => ['f', 'a', 'l', 's', 'e']
  | num n => (numberText n).toList
  | str s => '"' :: (inner s ++ ['"'])
  | arr [] => ['[', ']']
  | arr (j :: rest) => '[' :: (chars j ++ (laterItems rest ++ [']']))
  | obj [] => ['\x7b', '\x7d']
  | obj ((key, j) :: rest) =>
    '\x7b' :: '"' :: (inner key ++ '"' :: ':' :: (chars j ++ (laterMembers rest ++ ['\x7d'])))

/-- The characters of items, each behind a comma. -/
def laterItems : List Json → List Char
  | [] => []
  | j :: rest => ',' :: (chars j ++ laterItems rest)

/-- The characters of members, each behind a comma. -/
def laterMembers : List (String × Json) → List Char
  | [] => []
  | (key, j) :: rest =>
    ',' :: '"' :: (inner key ++ '"' :: ':' :: (chars j ++ laterMembers rest))

end

mutual

theorem toList_write (acc : String) (j : Json) :
    (write acc j).toList = acc.toList ++ chars j := by
  cases j with
  | null => simp [write, chars]
  | bool b => cases b <;> simp [write, chars]
  | num n => simp [write, chars]
  | str s => simp [write, chars, toList_quote]
  | arr items =>
    cases items with
    | nil => simp [write, writeItems, chars]
    | cons j rest =>
      rw [write, writeItems, if_pos rfl, String.toList_append, toList_writeItems, toList_write]
      simp [chars]
  | obj fields =>
    cases fields with
    | nil => simp [write, writeFields, chars]
    | cons f rest =>
      obtain ⟨key, j⟩ := f
      rw [write, writeFields, if_pos rfl, String.toList_append, toList_writeFields, toList_write]
      simp [chars, toList_quote]

theorem toList_writeItems (acc : String) (items : List Json) :
    (writeItems acc false items).toList = acc.toList ++ laterItems items := by
  cases items with
  | nil => simp [writeItems, laterItems]
  | cons j rest =>
    rw [writeItems, toList_writeItems, toList_write]
    simp [laterItems]

theorem toList_writeFields (acc : String) (fields : List (String × Json)) :
    (writeFields acc false fields).toList = acc.toList ++ laterMembers fields := by
  cases fields with
  | nil => simp [writeFields, laterMembers]
  | cons f rest =>
    obtain ⟨key, j⟩ := f
    rw [writeFields, toList_writeFields, toList_write]
    simp [laterMembers, toList_quote]

end

theorem toList_compact (j : Json) : j.compact.toList = chars j := by
  simp [compact, toList_write]

mutual

/-- The value can be read from its text: it nests at most so many containers, and its numbers are
read back. -/
def Legible : Json → Nat → Prop
  | num n, _ => n.IsLegible
  | arr _, 0 => False
  | arr items, levels + 1 => LegibleItems items levels
  | obj _, 0 => False
  | obj fields, levels + 1 => LegibleFields fields levels
  | _, _ => True

/-- Every item is legible. -/
def LegibleItems : List Json → Nat → Prop
  | [], _ => True
  | j :: rest, levels => Legible j levels ∧ LegibleItems rest levels

/-- Every member's value is legible. -/
def LegibleFields : List (String × Json) → Nat → Prop
  | [], _ => True
  | (_, j) :: rest, levels => Legible j levels ∧ LegibleFields rest levels

end

theorem head_of_readNumber {cs rest : List Char} {r : RawJson}
    (h : readNumber cs = some (r, rest)) :
    ∃ c cs', cs = c :: cs' ∧ (c = '-' ∨ c.isDigit = true) := by
  cases cs with
  | nil => cases h
  | cons c cs' =>
    refine ⟨c, cs', rfl, ?_⟩
    by_cases hc : c = '-'
    · exact .inl hc
    · refine .inr ?_
      by_contra hd
      have hsign : numberSign (c :: cs') = (false, c :: cs') := by
        unfold numberSign
        split
        · rename_i hcons
          injection hcons with h₁
          exact absurd h₁ hc
        · rfl
      rw [readNumber_eq, hsign] at h
      simp [hd] at h

/-- The first character of a number differs from every other character. -/
theorem ne_of_numberHead {c d : Char} (hc : c = '-' ∨ c.isDigit = true) (hminus : d ≠ '-')
    (hd : d.isDigit = false) : c ≠ d := by
  rintro rfl
  rcases hc with rfl | hc
  · exact hminus rfl
  · rw [hd] at hc
    cases hc

theorem isBlank_of_numberHead {c : Char} (hc : c = '-' ∨ c.isDigit = true) :
    isBlank c = false := by
  have hne := fun {d} => ne_of_numberHead (d := d) hc
  simp [isBlank, hne (d := ' ') (by decide) (by decide), hne (d := '\n') (by decide) (by decide),
    hne (d := '\t') (by decide) (by decide), hne (d := '\r') (by decide) (by decide)]

theorem skipBlanks_cons {c : Char} (h : isBlank c = false) (cs : List Char) :
    skipBlanks (c :: cs) = c :: cs := by
  simp [skipBlanks, h]

theorem readValue_number {cs back : List Char} {r : RawJson} (hb : Ends back)
    (h : readNumber cs = some (r, [])) (n depth : Nat) :
    readValue (n + 1) depth (cs ++ back) = some (r, back) := by
  have hread := readNumber_append hb h
  obtain ⟨c, cs', rfl, hc⟩ := head_of_readNumber h
  rw [List.cons_append] at hread ⊢
  rw [readValue, skipBlanks_cons (isBlank_of_numberHead hc)]
  split
  any_goals
    rename_i hcons
    injection hcons with h₁
    exact absurd h₁ (ne_of_numberHead hc (by decide) (by decide))
  exact hread

/-- How the text of a value begins: with no blank, and with no closing bracket. -/
theorem head_chars (j : Json) {levels : Nat} (h : j.Legible levels) :
    ∃ c cs, chars j = c :: cs ∧ isBlank c = false ∧ c ≠ ']' := by
  cases j with
  | null => exact ⟨_, _, rfl, by decide, by decide⟩
  | bool b => cases b <;> exact ⟨_, _, rfl, by decide, by decide⟩
  | num n =>
    have hread : n.IsLegible := h
    obtain ⟨c, cs, hcs, hc⟩ := head_of_readNumber hread
    exact ⟨c, cs, hcs, isBlank_of_numberHead hc, ne_of_numberHead hc (by decide) (by decide)⟩
  | str s => exact ⟨_, _, rfl, by decide, by decide⟩
  | arr items => cases items <;> exact ⟨_, _, rfl, by decide, by decide⟩
  | obj fields => cases fields <;> exact ⟨_, _, rfl, by decide, by decide⟩

theorem ends_laterItems (items : List Json) (back : List Char) :
    Ends (laterItems items ++ ']' :: back) := by
  intro c hc
  cases items <;> cases hc <;> decide

theorem ends_laterMembers (fields : List (String × Json)) (back : List Char) :
    Ends (laterMembers fields ++ '\x7d' :: back) := by
  intro c hc
  cases fields <;> cases hc <;> decide

/-- The characters of items. -/
def itemChars : List Json → List Char
  | [] => []
  | j :: rest => chars j ++ laterItems rest

/-- The characters of members. -/
def memberChars : List (String × Json) → List Char
  | [] => []
  | (key, j) :: rest => '"' :: (inner key ++ '"' :: ':' :: (chars j ++ laterMembers rest))

theorem chars_arr (items : List Json) : chars (.arr items) = '[' :: (itemChars items ++ [']']) := by
  cases items <;> simp [chars, itemChars]

theorem chars_obj (fields : List (String × Json)) :
    chars (.obj fields) = '\x7b' :: (memberChars fields ++ ['\x7d']) := by
  cases fields <;> simp [chars, memberChars]

/-- A list that does not end at once. -/
theorem readValue_items {c : Char} (hblank : isBlank c = false) (hne : c ≠ ']') (n depth : Nat)
    (cs : List Char) :
    readValue (n + 1) depth ('[' :: c :: cs) =
      (readItems n (depth + 1) (c :: cs)).map fun p =>
        (nested (depth + 1) (.arr p.1), p.2) := by
  rw [readValue, skipBlanks_cons (by decide)]
  split
  case h_5 rest hcs =>
    obtain rfl := (List.cons.inj hcs).2
    rw [skipBlanks_cons hblank]
    split
    case h_1 hrest => exact absurd (List.cons.inj hrest).1 hne
    case h_2 => rfl
  case h_7 hitems _ => exact (hitems _ rfl).elim
  -- No other value begins with a bracket.
  all_goals
    rename_i hcs
    simp at hcs

theorem objectOf_some (members : List (String × RawJson)) :
    objectOf (members.map fun e => (some e.1, e.2)) = .obj members := by
  have hkeyed : (members.map fun e => (some e.1, e.2)).mapM
      (fun e => e.1.map fun k => (k, e.2)) = some members := by
    induction members with
    | nil => rfl
    | cons e rest ih => simp [ih]
  exact congrArg (Option.elim · RawJson.unreadable RawJson.obj) hkeyed

section

variable {n depth : Nat} {back : List Char}

theorem readValue_str (s : String) (hn : 2 * (chars (.str s)).length ≤ n + 1) :
    readValue (n + 1) depth (chars (.str s) ++ back) = some (.str s, back) := by
  have hlength := length_le_inner s
  have htext : readText n (inner s ++ '"' :: back) = some (some s, back) :=
    readText_inner s n back (by simp [chars] at hn; omega)
  have hshape : chars (.str s) ++ back = '"' :: (inner s ++ '"' :: back) := by simp [chars]
  rw [hshape]
  show (readText n _).map _ = _
  rw [htext]
  rfl

/-- A list is read if its items are. -/
theorem readValue_arr {items : List Json} {levels : Nat} (h : LegibleItems items levels)
    (hdepth : depth < 127)
    (hread : items ≠ [] → readItems n (depth + 1) (itemChars items ++ ']' :: back) =
      some (rawItems items, back)) :
    readValue (n + 1) depth (chars (.arr items) ++ back) = some (.arr (rawItems items), back) := by
  have hnested : nested (depth + 1) (.arr (rawItems items)) = .arr (rawItems items) :=
    if_pos (by omega)
  have hshape : chars (.arr items) ++ back = '[' :: (itemChars items ++ ']' :: back) := by
    simp [chars_arr]
  rw [hshape]
  cases items with
  | nil =>
    show some (nested (depth + 1) (.arr []), back) = _
    exact congrArg (fun r => some (r, back)) hnested
  | cons j rest =>
    obtain ⟨c, cs, hcs, hblank, hne⟩ := head_chars j h.1
    replace hread := hread (List.cons_ne_nil _ _)
    rw [itemChars, hcs, List.append_assoc, List.cons_append] at hread ⊢
    rw [readValue_items hblank hne, hread]
    exact congrArg (fun r => some (r, back)) hnested

/-- An object is read if its members are. -/
theorem readValue_obj {fields : List (String × Json)} (hdepth : depth < 127)
    (hread : fields ≠ [] → readMembers n (depth + 1) (memberChars fields ++ '\x7d' :: back) =
      some ((rawFields fields).map fun e => (some e.1, e.2), back)) :
    readValue (n + 1) depth (chars (.obj fields) ++ back) =
      some (.obj (rawFields fields), back) := by
  have hnested : nested (depth + 1) (.obj (rawFields fields)) = .obj (rawFields fields) :=
    if_pos (by omega)
  have hshape : chars (.obj fields) ++ back =
      '\x7b' :: (memberChars fields ++ '\x7d' :: back) := by simp [chars_obj]
  rw [hshape]
  cases fields with
  | nil =>
    show some (nested (depth + 1) (.obj []), back) = _
    exact congrArg (fun r => some (r, back)) hnested
  | cons f rest =>
    show (readMembers n (depth + 1) (memberChars (f :: rest) ++ '\x7d' :: back)).map _ = _
    rw [hread (List.cons_ne_nil _ _)]
    show some (nested (depth + 1) (objectOf _), back) = _
    rw [objectOf_some]
    exact congrArg (fun r => some (r, back)) hnested

end

mutual

/-- **A value is read from its text**, whatever follows. -/
theorem readValue_chars (j : Json) {levels n depth : Nat} {back : List Char}
    (h : j.Legible levels) (hdepth : depth + levels ≤ 127) (hn : 2 * (chars j).length ≤ n)
    (hb : Ends back) : readValue n depth (chars j ++ back) = some (j.raw, back) := by
  obtain ⟨c, cs, hcs, -, -⟩ := head_chars j h
  obtain ⟨n, rfl⟩ : ∃ m, n = m + 1 := ⟨n - 1, by rw [hcs] at hn; simp at hn; omega⟩
  cases j with
  | null => rfl
  | bool b => cases b <;> rfl
  | num x =>
    have hread : x.IsLegible := h
    exact readValue_number hb hread n depth
  | str s => exact readValue_str s hn
  | arr items =>
    cases levels with
    | zero => exact h.elim
    | succ levels =>
      have hitems : LegibleItems items levels := h
      refine readValue_arr hitems (by omega) fun hne => ?_
      exact readItems_chars items hne hitems (by omega)
        (by rw [chars_arr] at hn; simp at hn ⊢; omega)
  | obj fields =>
    cases levels with
    | zero => exact h.elim
    | succ levels =>
      have hfields : LegibleFields fields levels := h
      refine readValue_obj (by omega) fun hne => ?_
      exact readMembers_chars fields hne hfields (by omega)
        (by rw [chars_obj] at hn; simp at hn ⊢; omega)

theorem readItems_chars (items : List Json) {levels n depth : Nat} {back : List Char}
    (hne : items ≠ []) (h : LegibleItems items levels) (hdepth : depth + levels ≤ 127)
    (hn : 2 * (itemChars items).length + 1 ≤ n) :
    readItems n depth (itemChars items ++ ']' :: back) = some (rawItems items, back) := by
  obtain ⟨n, rfl⟩ : ∃ m, n = m + 1 := ⟨n - 1, by omega⟩
  cases items with
  | nil => exact absurd rfl hne
  | cons j rest =>
    have hj : readValue n depth (chars j ++ (laterItems rest ++ ']' :: back)) =
        some (j.raw, laterItems rest ++ ']' :: back) :=
      readValue_chars j h.1 hdepth (by simp [itemChars] at hn; omega) (ends_laterItems rest back)
    rw [itemChars, List.append_assoc, readItems, hj]
    cases rest with
    | nil => rfl
    | cons k rest =>
      have hrest : readItems n depth (itemChars (k :: rest) ++ ']' :: back) =
          some (rawItems (k :: rest), back) :=
        readItems_chars (k :: rest) (List.cons_ne_nil _ _) h.2 hdepth
          (by simp [itemChars, laterItems] at hn ⊢; omega)
      have hshape : laterItems (k :: rest) ++ ']' :: back =
          ',' :: (itemChars (k :: rest) ++ ']' :: back) := by simp [laterItems, itemChars]
      rw [hshape]
      show (readItems n depth (itemChars (k :: rest) ++ ']' :: back)).bind _ = _
      rw [hrest]
      rfl

theorem readMembers_chars (fields : List (String × Json)) {levels n depth : Nat}
    {back : List Char} (hne : fields ≠ []) (h : LegibleFields fields levels)
    (hdepth : depth + levels ≤ 127) (hn : 2 * (memberChars fields).length + 1 ≤ n) :
    readMembers n depth (memberChars fields ++ '\x7d' :: back) =
      some ((rawFields fields).map fun e => (some e.1, e.2), back) := by
  obtain ⟨n, rfl⟩ : ∃ m, n = m + 1 := ⟨n - 1, by omega⟩
  cases fields with
  | nil => exact absurd rfl hne
  | cons f rest =>
    obtain ⟨key, j⟩ := f
    have hlength := length_le_inner key
    have hkey : readText n (inner key ++ '"' :: ':' ::
          (chars j ++ (laterMembers rest ++ '\x7d' :: back))) =
        some (some key, ':' :: (chars j ++ (laterMembers rest ++ '\x7d' :: back))) :=
      readText_inner key n _ (by simp [memberChars] at hn; omega)
    have hj : readValue n depth (chars j ++ (laterMembers rest ++ '\x7d' :: back)) =
        some (j.raw, laterMembers rest ++ '\x7d' :: back) :=
      readValue_chars j h.1 hdepth (by simp [memberChars] at hn; omega)
        (ends_laterMembers rest back)
    have hshape : memberChars ((key, j) :: rest) ++ '\x7d' :: back =
        '"' :: (inner key ++ '"' :: ':' ::
          (chars j ++ (laterMembers rest ++ '\x7d' :: back))) := by simp [memberChars]
    rw [hshape]
    show (readText n _).bind _ = _
    rw [hkey]
    show (readValue n depth _).bind _ = _
    rw [hj]
    cases rest with
    | nil => rfl
    | cons g rest =>
      have hrest : readMembers n depth (memberChars (g :: rest) ++ '\x7d' :: back) =
          some ((rawFields (g :: rest)).map fun e => (some e.1, e.2), back) :=
        readMembers_chars (g :: rest) (List.cons_ne_nil _ _) h.2 hdepth
          (by obtain ⟨k, i⟩ := g; simp [memberChars, laterMembers] at hn ⊢; omega)
      have hshape : laterMembers (g :: rest) ++ '\x7d' :: back =
          ',' :: (memberChars (g :: rest) ++ '\x7d' :: back) := by
        obtain ⟨k, i⟩ := g
        simp [laterMembers, memberChars]
      rw [hshape]
      show (readMembers n depth (memberChars (g :: rest) ++ '\x7d' :: back)).bind _ = _
      rw [hrest]
      rfl

end

/-- What a reader makes of the characters of a value. -/
def reread? (j : Json) : Option RawJson :=
  match readValue (2 * j.chars.length + 2) 0 j.chars with
  | some (r, rest) => if (skipBlanks rest).isEmpty then some r else none
  | none => none

theorem ofText?_compact_eq (j : Json) : RawJson.ofText? j.compact = j.reread? := by
  unfold RawJson.ofText?
  rw [toList_compact]
  rfl

/-- **The text of a legible value reads as the value.** -/
theorem ofText?_compact {j : Json} (h : j.Legible 127) :
    RawJson.ofText? j.compact = some j.raw := by
  have hread : readValue (2 * (chars j).length + 2) 0 (chars j ++ []) = some (j.raw, []) :=
    readValue_chars j h (by omega) (by omega) fun _ hc => by cases hc
  rw [List.append_nil] at hread
  rw [ofText?_compact_eq, reread?, hread]
  rfl

/-! ## 4. What is legible -/

section

variable {n : Nat}

@[simp] theorem legible_bool (b : Bool) : (Json.bool b).Legible n := trivial

@[simp] theorem legible_str (s : String) : (Json.str s).Legible n := trivial

@[simp] theorem legible_num {x : Number} : (num x).Legible n ↔ x.IsLegible := by
  cases n <;> exact Iff.rfl

theorem legible_int {i : Int} (hmin : Int64.minValue.toInt ≤ i) (hmax : i < UInt64.size) :
    (ofInt i).Legible n := legible_num.2 (isLegible_int hmin hmax)

@[simp] theorem legible_arr {items : List Json} :
    (arr items).Legible (n + 1) ↔ ∀ j ∈ items, j.Legible n := by
  show LegibleItems items n ↔ _
  induction items with
  | nil => simp [LegibleItems]
  | cons j rest ih => simp [LegibleItems, ih]

@[simp] theorem legible_obj {fields : List (String × Json)} :
    (obj fields).Legible (n + 1) ↔ ∀ e ∈ fields, e.2.Legible n := by
  show LegibleFields fields n ↔ _
  induction fields with
  | nil => simp [LegibleFields]
  | cons e rest ih => obtain ⟨key, j⟩ := e; simp [LegibleFields, ih]

theorem legible_ofMembers {members : List (String × Json)} (h : ∀ e ∈ members, e.2.Legible n) :
    (ofMembers members).Legible (n + 1) :=
  legible_obj.2 fun e he => h e ((Entries.mem_insertAll he).resolve_right List.not_mem_nil)

/-- More room does no harm. -/
theorem Legible.mono {j : Json} {m : Nat} (h : j.Legible n) (hle : n ≤ m) : j.Legible m := by
  induction n generalizing j m with
  | zero =>
    cases j with
    | arr items => exact h.elim
    | obj fields => exact h.elim
    | num x => exact legible_num.2 (legible_num.1 h)
    | _ => trivial
  | succ n ih =>
    obtain ⟨m, rfl⟩ : ∃ k, m = k + 1 := ⟨m - 1, by omega⟩
    cases j with
    | arr items => exact legible_arr.2 fun i hi => ih (legible_arr.1 h i hi) (by omega)
    | obj fields => exact legible_obj.2 fun e he => ih (legible_obj.1 h e he) (by omega)
    | num x => exact legible_num.2 (legible_num.1 h)
    | _ => trivial

end

-- From here on these lemmas say what is legible; unfolding would evaluate what codecs write.
attribute [irreducible] Legible

end Json

end Reconciliation
