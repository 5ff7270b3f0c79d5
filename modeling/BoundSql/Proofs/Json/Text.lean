import BoundSql.Json.Reader
import BoundSql.Json.Writer
import BoundSql.Proofs.Binary.Reading
/-!
No text of a value begins another one with which it could be confused: numbers end where no
character of a number follows, strings are read back up to their quote, and members of arrays and
objects are told apart by what stands between them.
-/

namespace BoundSql

open Binary Digits

theorem FiniteDouble.text_injective {x y : FiniteDouble}
    (h : x.value.text jsonLayout = y.value.text jsonLayout) : x = y := by
  have hbits : x.value.bits.toNat = y.value.bits.toNat :=
    Layout.text_injective Format.narrow_binary64 signed_jsonLayout x.value.bits.toNat_lt
      y.value.bits.toNat_lt x.isFinite y.isFinite h
  obtain ⟨⟨a⟩, _⟩ := x
  obtain ⟨⟨b⟩, _⟩ := y
  obtain rfl : a = b := UInt64.toNat_inj.mp hbits
  rfl

namespace JsonNumber

theorem inNumber_text (n : JsonNumber) : ∀ c ∈ n.text.toList, InNumber c := by
  cases n with
  | integer n => exact inNumber_toString n
  | double x =>
    obtain ⟨cs, y, htext, hy, -⟩ := written_text Format.narrow_binary64 jsonLayout x.isFinite
    rw [text, Binary64.text, htext]
    have hcs := hy.inNumber signed_jsonLayout
    split
    · exact List.forall_mem_cons.mpr ⟨by decide, hcs⟩
    · exact hcs

theorem text_double_marked (x : FiniteDouble) :
    '.' ∈ (double x).text.toList ∨ 'e' ∈ (double x).text.toList := by
  obtain ⟨cs, y, htext, hy, -⟩ := written_text Format.narrow_binary64 jsonLayout x.isFinite
  rw [text, Binary64.text, htext]
  split
  · exact hy.marked.imp (List.mem_cons_of_mem _) (List.mem_cons_of_mem _)
  · exact hy.marked

theorem text_integer_plain (n : Int) {c : Char} (hdigit : c.isDigit = false) (hsign : c ≠ '-') :
    c ∉ (integer n).text.toList := by
  cases n with
  | ofNat n =>
    rw [text, toList_toString_ofNat]
    exact Only.notMem isDigit_toDigits hdigit
  | negSucc n =>
    rw [text, toList_toString_negSucc, List.mem_cons, not_or]
    exact ⟨hsign, Only.notMem isDigit_toDigits hdigit⟩

/-- Only floating-point numbers have a point or an exponent. -/
theorem text_integer_ne (n : Int) (x : FiniteDouble) : (integer n).text ≠ (double x).text := by
  intro h
  have hmarked := text_double_marked x
  rw [← h] at hmarked
  rcases hmarked with hc | hc
  · exact text_integer_plain n rfl (by decide) hc
  · exact text_integer_plain n rfl (by decide) hc

theorem text_ne_nil (n : JsonNumber) : n.text.toList ≠ [] := by
  cases n with
  | integer n =>
    cases n with
    | ofNat n => exact (toList_toString_ofNat n).trans_ne Nat.toDigits_ne_nil
    | negSucc n => exact (toList_toString_negSucc n).trans_ne (List.cons_ne_nil _ _)
  | double x =>
    intro h
    rcases text_double_marked x with hc | hc <;> rw [h] at hc <;> cases hc

theorem text_injective {m n : JsonNumber} (h : m.text = n.text) : m = n := by
  cases m with
  | integer a =>
    cases n with
    | integer b =>
      have hread := congrArg (fun s => readInt s.toList) h
      exact congrArg integer ((readInt_toString a).symm.trans (hread.trans (readInt_toString b)))
    | double y => exact absurd h (text_integer_ne a y)
  | double x =>
    cases n with
    | integer b => exact absurd h.symm (text_integer_ne b x)
    | double y => exact congrArg double (FiniteDouble.text_injective h)

end JsonNumber

namespace Json

theorem string?_escape (fuel : Nat) (acc : List Char) (c : Char) (cs : List Char) :
    string? (fuel + 1) acc (escape c ++ cs) = string? fuel (c :: acc) cs := by
  have hcontrol : ∀ n < 32, Hex.number? ['0', '0', Hex.digit (n / 16), Hex.digit (n % 16)] =
      some n := by decide
  unfold escape
  split
  case h_8 hquote hslash _ _ _ _ _ =>
    split
    case isTrue hlt =>
      have hunit : codeUnit? ('0' :: '0' :: Hex.digit (c.toNat / 16) :: Hex.digit (c.toNat % 16) ::
          cs) = some (c.toNat, cs) := by
        rw [codeUnit?, hcontrol c.toNat hlt]
        rfl
      have hescaped : escaped? ('u' :: '0' :: '0' :: Hex.digit (c.toNat / 16) ::
          Hex.digit (c.toNat % 16) :: cs) = some (c, cs) := by
        simp only [escaped?, hunit]
        rw [if_neg (by omega), if_neg (by omega), Char.ofNat_toNat]
      simp only [List.cons_append, List.nil_append, string?, hescaped]
    case isFalse hge =>
      rw [List.singleton_append, string?, if_neg hge]
      · exact hquote
      · exact hslash
  all_goals rfl

/-- A string is read back up to the quote behind it. -/
theorem string?_flatMap_escape (cs ds : List Char) {fuel : Nat} (hfuel : cs.length < fuel)
    (acc : List Char) :
    string? fuel acc (cs.flatMap escape ++ '"' :: ds) =
      some (String.ofList (acc.reverse ++ cs), ds) := by
  induction cs generalizing fuel acc with
  | nil =>
    obtain ⟨fuel, rfl⟩ := Nat.exists_eq_add_one_of_ne_zero (Nat.ne_zero_of_lt hfuel)
    simp [string?]
  | cons c cs ih =>
    obtain ⟨fuel, rfl⟩ := Nat.exists_eq_add_one_of_ne_zero (Nat.ne_zero_of_lt hfuel)
    rw [List.flatMap_cons, List.append_assoc, string?_escape, ih (by simpa using hfuel)]
    simp

theorem toList_quote (s : String) :
    (quote s).toList = '"' :: (s.toList.flatMap escape ++ ['"']) := by
  simp [quote]

theorem quote_cancel {s t : String} {cs ds : List Char}
    (h : (quote s).toList ++ cs = (quote t).toList ++ ds) : s = t ∧ cs = ds := by
  simp only [toList_quote, List.cons_append, List.append_assoc, List.nil_append, List.cons.injEq,
    true_and] at h
  have hread := congrArg (string? (s.toList.length + t.toList.length + 1) []) h
  rw [string?_flatMap_escape _ _ (by omega), string?_flatMap_escape _ _ (by omega)] at hread
  simpa using hread

/-- No number goes on here. -/
def Ends (cs : List Char) : Prop := ∀ c ∈ cs.head?, ¬ InNumber c

theorem ends_cons {c : Char} (h : ¬ InNumber c) (cs : List Char) : Ends (c :: cs) := by
  rintro d ⟨⟩
  exact h

theorem append_cancel {cs ds es fs : List Char} (hcs : ∀ c ∈ cs, InNumber c)
    (hds : ∀ c ∈ ds, InNumber c) (hes : Ends es) (hfs : Ends fs) (h : cs ++ es = ds ++ fs) :
    cs = ds ∧ es = fs := by
  induction cs generalizing ds with
  | nil =>
    cases ds with
    | nil => exact ⟨rfl, h⟩
    | cons d ds =>
      obtain rfl : es = d :: ds ++ fs := h
      exact absurd (hds d List.mem_cons_self) (hes d rfl)
  | cons c cs ih =>
    cases ds with
    | nil =>
      obtain rfl : c :: cs ++ es = fs := h
      exact absurd (hcs c List.mem_cons_self) (hfs c rfl)
    | cons d ds =>
      rw [List.forall_mem_cons] at hcs hds
      obtain ⟨rfl, htail⟩ := List.cons_eq_cons.mp h
      obtain ⟨rfl, hrest⟩ := ih hcs.2 hds.2 htail
      exact ⟨rfl, hrest⟩

theorem number_cancel {m n : JsonNumber} {cs ds : List Char} (hcs : Ends cs) (hds : Ends ds)
    (h : m.text.toList ++ cs = n.text.toList ++ ds) : m = n ∧ cs = ds := by
  obtain ⟨htext, hrest⟩ := append_cancel m.inNumber_text n.inNumber_text hcs hds h
  exact ⟨JsonNumber.text_injective (String.toList_inj.mp htext), hrest⟩

inductive Kind where
  | null
  | bool (b : Bool)
  | number
  | string
  | array
  | object

def kind : Json → Kind
  | null => .null
  | bool b => .bool b
  | number _ => .number
  | string _ => .string
  | array _ => .array
  | object _ => .object

/-- The kind of the values that begin with a character. -/
def opened? (c : Char) : Option Kind :=
  match c with
  | 'n' => some .null
  | 't' => some (.bool true)
  | 'f' => some (.bool false)
  | '"' => some .string
  | '[' => some .array
  | '\x7b' => some .object
  | c => if InNumber c then some .number else none

theorem opened?_of_inNumber {c : Char} (h : InNumber c) : opened? c = some .number := by
  unfold opened?
  split
  case h_7 => exact if_pos h
  all_goals exact absurd h (by decide)

theorem exists_opened (a : Json) : ∃ c cs, a.text.toList = c :: cs ∧ opened? c = some a.kind := by
  cases a with
  | null => exact ⟨'n', _, String.toList_ofList, rfl⟩
  | bool b =>
    cases b with
    | true => exact ⟨'t', _, String.toList_ofList, rfl⟩
    | false => exact ⟨'f', _, String.toList_ofList, rfl⟩
  | number n =>
    cases h : n.text.toList with
    | nil => exact absurd h n.text_ne_nil
    | cons c cs => exact ⟨c, cs, h, opened?_of_inNumber (n.inNumber_text c (by simp [h]))⟩
  | string s => exact ⟨'"', _, toList_quote s, rfl⟩
  | array items => exact ⟨'[', (itemsText items).toList ++ [']'], by simp [text], rfl⟩
  | object fields =>
    exact ⟨'\x7b', (fieldsText fields).toList ++ ['\x7d'], by simp [text], rfl⟩

theorem kind_eq {a b : Json} {cs ds : List Char}
    (h : a.text.toList ++ cs = b.text.toList ++ ds) : a.kind = b.kind := by
  obtain ⟨c, as, ha, hc⟩ := exists_opened a
  obtain ⟨d, bs, hb, hd⟩ := exists_opened b
  rw [ha, hb, List.cons_append, List.cons_append] at h
  obtain ⟨rfl, -⟩ := List.cons_eq_cons.mp h
  exact Option.some.inj (hc.symm.trans hd)

theorem text_ne_closing (a : Json) (cs ds : List Char) : a.text.toList ++ cs ≠ ']' :: ds := by
  obtain ⟨c, as, ha, hc⟩ := exists_opened a
  rw [ha]
  intro h
  obtain ⟨rfl, -⟩ := List.cons_eq_cons.mp h
  cases hc

/-- The text of the members behind the first one. -/
def more {α : Type} (members : List α → String) : List α → List Char
  | [] => []
  | as => ',' :: (members as).toList

theorem itemsText_cons (a : Json) (as : List Json) :
    (itemsText (a :: as)).toList = a.text.toList ++ more itemsText as := by
  cases as <;> simp [itemsText, more]

theorem fieldsText_cons (k : String) (a : Json) (fs : List (String × Json)) :
    (fieldsText ((k, a) :: fs)).toList =
      (quote k).toList ++ ':' :: (a.text.toList ++ more fieldsText fs) := by
  cases fs <;> simp [fieldsText, more]

theorem ends_more {α : Type} (members : List α → String) (as : List α) {c : Char}
    (hc : ¬ InNumber c) (cs : List Char) : Ends (more members as ++ c :: cs) := by
  cases as with
  | nil => exact ends_cons hc cs
  | cons a as => exact ends_cons (by decide) _

theorem more_cancel {α : Type} {members : List α → String} {as bs : List α} {c : Char}
    (hc : c ≠ ',') {cs ds : List Char}
    (hmembers : ∀ {cs ds : List Char},
      (members as).toList ++ c :: cs = (members bs).toList ++ c :: ds → as = bs ∧ cs = ds)
    (h : more members as ++ c :: cs = more members bs ++ c :: ds) : as = bs ∧ cs = ds := by
  cases as with
  | nil =>
    cases bs with
    | nil => exact ⟨rfl, List.tail_eq_of_cons_eq h⟩
    | cons => exact absurd (List.head_eq_of_cons_eq h) hc
  | cons a as =>
    cases bs with
    | nil => exact absurd (List.head_eq_of_cons_eq h).symm hc
    | cons b bs => exact hmembers (List.tail_eq_of_cons_eq h)

-- By recursion on the first value and its members: the text of a value is told from whatever
-- follows it, provided that no number goes on there.
mutual

theorem text_cancel : ∀ (a b : Json) {cs ds : List Char}, Ends cs → Ends ds →
    a.text.toList ++ cs = b.text.toList ++ ds → a = b ∧ cs = ds
  | null, b, cs, ds, _, _, h => by
    cases b with
    | null => exact ⟨rfl, List.append_cancel_left h⟩
    | _ => cases kind_eq h
  | bool p, b, cs, ds, _, _, h => by
    cases b with
    | bool q =>
      cases kind_eq h
      exact ⟨rfl, List.append_cancel_left h⟩
    | _ => cases kind_eq h
  | number m, b, cs, ds, hcs, hds, h => by
    cases b with
    | number n =>
      obtain ⟨rfl, hrest⟩ := number_cancel hcs hds h
      exact ⟨rfl, hrest⟩
    | _ => cases kind_eq h
  | string s, b, cs, ds, _, _, h => by
    cases b with
    | string t =>
      obtain ⟨rfl, hrest⟩ := quote_cancel h
      exact ⟨rfl, hrest⟩
    | _ => cases kind_eq h
  | array as, b, cs, ds, _, _, h => by
    cases b with
    | array bs =>
      obtain ⟨rfl, hrest⟩ := itemsText_cancel as bs (by simpa [text] using h)
      exact ⟨rfl, hrest⟩
    | _ => cases kind_eq h
  | object fs, b, cs, ds, _, _, h => by
    cases b with
    | object gs =>
      obtain ⟨rfl, hrest⟩ := fieldsText_cancel fs gs (by simpa [text] using h)
      exact ⟨rfl, hrest⟩
    | _ => cases kind_eq h

theorem itemsText_cancel (as bs : List Json) {cs ds : List Char}
    (h : (itemsText as).toList ++ ']' :: cs = (itemsText bs).toList ++ ']' :: ds) :
    as = bs ∧ cs = ds := by
  cases as with
  | nil =>
    cases bs with
    | nil => exact ⟨rfl, List.tail_eq_of_cons_eq h⟩
    | cons b bs =>
      rw [itemsText_cons, List.append_assoc] at h
      exact absurd h.symm (text_ne_closing b _ _)
  | cons a as =>
    cases bs with
    | nil =>
      rw [itemsText_cons, List.append_assoc] at h
      exact absurd h (text_ne_closing a _ _)
    | cons b bs =>
      rw [itemsText_cons, itemsText_cons, List.append_assoc, List.append_assoc] at h
      obtain ⟨rfl, hrest⟩ :=
        text_cancel a b (ends_more _ as (by decide) cs) (ends_more _ bs (by decide) ds) h
      obtain ⟨rfl, hend⟩ := more_cancel (by decide) (itemsText_cancel as bs) hrest
      exact ⟨rfl, hend⟩

theorem fieldsText_cancel (fs gs : List (String × Json)) {cs ds : List Char}
    (h : (fieldsText fs).toList ++ '\x7d' :: cs = (fieldsText gs).toList ++ '\x7d' :: ds) :
    fs = gs ∧ cs = ds := by
  cases fs with
  | nil =>
    cases gs with
    | nil => exact ⟨rfl, List.tail_eq_of_cons_eq h⟩
    | cons g gs =>
      rw [fieldsText_cons, toList_quote] at h
      cases h
  | cons f fs =>
    obtain ⟨k, a⟩ := f
    cases gs with
    | nil =>
      rw [fieldsText_cons, toList_quote] at h
      cases h
    | cons g gs =>
      obtain ⟨l, b⟩ := g
      simp only [fieldsText_cons, List.append_assoc, List.cons_append] at h
      obtain ⟨rfl, hfields⟩ := quote_cancel h
      obtain ⟨rfl, hrest⟩ := text_cancel a b (ends_more _ fs (by decide) cs)
        (ends_more _ gs (by decide) ds) (List.tail_eq_of_cons_eq hfields)
      obtain ⟨rfl, hend⟩ := more_cancel (by decide) (fieldsText_cancel fs gs) hrest
      exact ⟨rfl, hend⟩

end

/-- The text of a value tells the value: kinds, digits of numbers and order of fields included. -/
theorem text_injective {a b : Json} (h : a.text = b.text) : a = b := by
  have hend : Ends [] := by simp [Ends]
  exact (text_cancel a b hend hend (by rw [h])).1

end Json

end BoundSql
