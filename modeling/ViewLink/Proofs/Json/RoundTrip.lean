import ViewLink.Proofs.Json.Grammar
import ViewLink.Proofs.Json.Members
import ViewLink.Proofs.Json.Strings

/-!
# Text that is read back

What is printed is read back, with one limit: the printer nests arrays and objects as deep as the
value does, and the reader gives up beyond a depth. So for a given depth there are two outcomes, the
value or a fault (`within`), and which of them it is depends on nothing but the nesting of the value
(`readValue_printed`). For floats it is assumed that they are read back one by one.

## Main definitions

* `Value.nesting` — how deep the arrays and objects of a value are nested;
* `Value.floats` — the floats in a value;
* `within` — the two outcomes.
-/

set_option autoImplicit false

namespace ViewLink.Json

open Text (utf8 utf8_append utf8_cons utf8_nil)

/-! ## Nesting and floats -/

mutual

/-- **How deep the arrays and objects of a value are nested.** -/
def Value.nesting : Value → Nat
  | .array items => itemsNesting items + 1
  | .object members => membersNesting members + 1
  | _ => 0

/-- The greatest nesting of these values. -/
def itemsNesting : List Value → Nat
  | [] => 0
  | x :: xs => max x.nesting (itemsNesting xs)

/-- The greatest nesting of the values of these members. -/
def membersNesting {bound : Option String} : Members Value bound → Nat
  | .nil => 0
  | .cons _ _ v rest => max v.nesting (membersNesting rest)

end

mutual

/-- **The floats in a value**, from left to right. -/
def Value.floats : Value → List Float
  | .number (.float x) => [x]
  | .array items => itemsFloats items
  | .object members => membersFloats members
  | _ => []

/-- The floats in these values. -/
def itemsFloats : List Value → List Float
  | [] => []
  | x :: xs => x.floats ++ itemsFloats xs

/-- The floats in the values of these members. -/
def membersFloats {bound : Option String} : Members Value bound → List Float
  | .nil => []
  | .cons _ _ v rest => v.floats ++ membersFloats rest

end

/-- **The outcome of reading something that nests so deep**, with so much nesting allowed. -/
def within {α : Type} (allowed nesting : Nat) (a : α) : Except Fault α :=
  if nesting ≤ allowed then .ok a else .error .malformed

section
variable {α β : Type}

theorem within_zero (allowed : Nat) (a : α) : within allowed 0 a = .ok a :=
  if_pos (Nat.zero_le allowed)

theorem within_succ_succ (allowed nesting : Nat) (a : α) :
    within (allowed + 1) (nesting + 1) a = within allowed nesting a := by
  simp only [within, Nat.add_le_add_iff_right]

theorem within_map (allowed nesting : Nat) (a : α) (f : α → β) :
    (within allowed nesting a >>= fun a => pure (f a)) = within allowed nesting (f a) := by
  unfold within
  split <;> rfl

/-- Two readings in a row succeed if neither meets too much nesting. -/
theorem within_bind {allowed m n : Nat} {a : α} {b : β} {f : α → Except Fault β}
    (h : f a = within allowed n b) :
    (within allowed m a >>= f) = within allowed (max m n) b := by
  unfold within at h ⊢
  by_cases hm : m ≤ allowed
  -- The first reading is within the limit, so the second decides.
  · rw [if_pos hm]
    show f a = _
    simp only [h, Nat.max_le, hm, true_and]
  · rw [if_neg hm, if_neg fun hmax => hm (Nat.max_le.1 hmax).1]
    rfl

end

/-! ## The first byte of a value -/

/-- A printed number begins like a number. -/
theorem number_printed (n : Number) (h : ∀ x ∈ (Value.number n).floats, ReadsBack x) :
    ∃ b bs, utf8 n.chars = b :: bs ∧ isBlank b = false ∧ isPlain b = true := by
  have hfloat : ∀ x, n = .float x → ReadsBack x := by
    rintro x rfl
    exact h x (by simp [Value.floats])
  obtain ⟨b, bs, hbytes, -⟩ := (numberText_printed hfloat).head
  have hb : b ∈ utf8 n.chars := by simp [hbytes]
  exact ⟨b, bs, hbytes, not_blank_of_mem_number hb, isPlain_utf8_number n b hb⟩

/-- **What a printed value begins with**: no blank and no closing bracket. -/
theorem head_printed (v : Value) (h : ∀ x ∈ v.floats, ReadsBack x) :
    ∃ b bs, utf8 v.chars = b :: bs ∧ isBlank b = false ∧ b ≠ Ascii.closeBracket := by
  cases v with
  | null => exact ⟨_, _, rfl, by decide, by decide⟩
  | bool b => cases b <;> exact ⟨_, _, rfl, by decide, by decide⟩
  | number n =>
      obtain ⟨b, bs, hbytes, hblank, hplain⟩ := number_printed n h
      refine ⟨b, bs, hbytes, hblank, ?_⟩
      rintro rfl
      exact absurd hplain (by decide)
  | string s => exact ⟨_, _, rfl, by decide, by decide⟩
  | array items => cases items <;> exact ⟨_, _, rfl, by decide, by decide⟩
  | object members => cases members <;> exact ⟨_, _, rfl, by decide, by decide⟩

/-! ## Scalars -/

/-- **A printed scalar is a text of the grammar.** -/
theorem scalarText_printed {v : Value} (hscalar : v.nesting = 0)
    (h : ∀ x ∈ v.floats, ReadsBack x) : ScalarText (utf8 v.chars) v := by
  cases v with
  | null => exact .null
  | bool b =>
      cases b with
      | true => exact .trueWord
      | false => exact .falseWord
  | number n =>
      refine .number (numberText_printed ?_)
      rintro x rfl
      exact h x (by simp [Value.floats])
  | string s =>
      have hbytes : utf8 (quoted s)
          = Ascii.quote :: (utf8 (s.toList.flatMap escaped) ++ [Ascii.quote]) := by
        rw [quoted, utf8_cons, utf8_append]
        rfl
      show ScalarText (utf8 (quoted s)) _
      rw [hbytes]
      exact .string (charsText_flatMap_escaped s.toList)
  | array items => cases hscalar
  | object members => cases hscalar

/-- **A printed scalar is read back**, however little nesting is allowed. -/
theorem readValue_printed_scalar {v : Value} (hscalar : v.nesting = 0) (allowed : Nat)
    {more : Bytes} (h : ∀ x ∈ v.floats, ReadsBack x) (hmore : Apart more) :
    readValue allowed (utf8 v.chars ++ more) = .ok (v, more) :=
  readValue_scalarText allowed (scalarText_printed hscalar h) hmore

/-! ## Arrays and objects -/

/-- The text of an array after its opening bracket. -/
def itemsChars : List Value → List Char
  | [] => [']']
  | x :: xs => x.chars ++ moreItems xs

/-- The text of an object after its opening brace. -/
def membersChars {bound : Option String} : Members Value bound → List Char
  | .nil => ['\x7d']
  | .cons k _ v rest => quoted k ++ ':' :: (v.chars ++ moreMembers rest)

theorem chars_array (xs : List Value) : (Value.array xs).chars = '[' :: itemsChars xs := by
  cases xs <;> rw [Value.chars, itemsChars]

theorem chars_object (ms : Object) : (Value.object ms).chars = '\x7b' :: membersChars ms := by
  cases ms <;> rw [Value.chars, membersChars]

theorem apart_moreItems (xs : List Value) (more : Bytes) : Apart (utf8 (moreItems xs) ++ more) := by
  cases xs <;> exact apart_cons (by decide) _

theorem apart_moreMembers {bound : Option String} (ms : Members Value bound) (more : Bytes) :
    Apart (utf8 (moreMembers ms) ++ more) := by
  cases ms <;> exact apart_cons (by decide) _

/-- Every item takes a byte at least, so the bytes suffice for the rounds. -/
theorem length_lt_moreItems (xs : List Value) : xs.length < (utf8 (moreItems xs)).length := by
  induction xs with
  | nil => decide
  | cons x xs ih =>
      have hlength : (utf8 (moreItems (x :: xs))).length
          = (utf8 x.chars).length + (utf8 (moreItems xs)).length + 1 := by
        show (Ascii.comma :: utf8 (x.chars ++ moreItems xs)).length = _
        rw [utf8_append, List.length_cons, List.length_append]
      rw [hlength, List.length_cons]
      omega

theorem length_lt_moreMembers {bound : Option String} (ms : Members Value bound) :
    ms.toList.length < (utf8 (moreMembers ms)).length := by
  induction ms with
  | nil => exact Nat.zero_lt_one
  | cons k above v rest ih =>
      have hlength : (utf8 (moreMembers (.cons k above v rest))).length
          = (utf8 (quoted k)).length + (utf8 (':' :: v.chars)).length
            + (utf8 (moreMembers rest)).length + 1 := by
        show (Ascii.comma :: utf8 (quoted k ++ ((':' :: v.chars) ++ moreMembers rest))).length = _
        rw [utf8_append, utf8_append, List.length_cons, List.length_append, List.length_append]
        omega
      rw [hlength, Members.toList, List.length_cons]
      omega

/-- A member is read back if its value is. -/
theorem readMember_printed {item : Reader Value} (k : String) {v : Value} {bs rest : Bytes}
    {allowed n : Nat} (h : item bs = within allowed n (v, rest)) :
    readMember item (utf8 (k.toList.flatMap escaped ++ ['"']) ++ Ascii.colon :: bs)
      = within allowed n ((k, v), rest) := by
  have hskip : skipBlank (Ascii.colon :: bs) = Ascii.colon :: bs := skipBlank_cons (by decide) bs
  simp only [readMember, readString_printed, ok_bind, hskip]
  show (item bs >>= fun r => pure ((k, r.1), r.2)) = _
  rw [h, within_map]

theorem utf8_member (k : String) (v : Value) (cs : List Char) (more : Bytes) :
    utf8 (quoted k ++ ':' :: (v.chars ++ cs)) ++ more
      = utf8 (quoted k) ++ Ascii.colon :: (utf8 v.chars ++ (utf8 cs ++ more)) := by
  rw [utf8_append, utf8_cons, utf8_append, List.append_assoc, List.append_assoc, List.append_assoc]
  rfl

/-! ### One round of each loop -/

section
variable {item : Reader Value} {allowed m n rounds : Nat} {b : UInt8} {bs mid more : Bytes}
  {x : Value} {xs : List Value}

theorem readItems_cons (hblank : isBlank b = false) (hclose : b ≠ Ascii.closeBracket)
    (hx : item (b :: bs) = within allowed m (x, mid))
    (hxs : readMoreItems item (mid.length + 1) mid = within allowed n (xs, more)) :
    readItems item (b :: bs) = within allowed (max m n) (x :: xs, more) := by
  rw [readItems_of_ne (skipBlank_cons hblank bs) hclose, hx]
  refine within_bind ?_
  show (readMoreItems item (mid.length + 1) mid >>= fun r => pure (x :: r.1, r.2)) = _
  rw [hxs, within_map]

theorem readMoreItems_cons (hblank : isBlank b = false) (hclose : b ≠ Ascii.closeBracket)
    (hx : item (b :: bs) = within allowed m (x, mid))
    (hxs : readMoreItems item rounds mid = within allowed n (xs, more)) :
    readMoreItems item (rounds + 1) (Ascii.comma :: b :: bs)
      = within allowed (max m n) (x :: xs, more) := by
  have hcomma : skipBlank (Ascii.comma :: b :: bs) = Ascii.comma :: b :: bs :=
    skipBlank_cons (by decide) (b :: bs)
  rw [readMoreItems_of_comma hcomma (skipBlank_cons hblank bs) hclose, hx]
  refine within_bind ?_
  show (readMoreItems item rounds mid >>= fun r => pure (x :: r.1, r.2)) = _
  rw [hxs, within_map]

end

section
variable {item : Reader Value} {allowed m n rounds : Nat} {bs mid more : Bytes} {k : String}
  {v : Value} {ms : List (String × Value)}

theorem skipBlank_quoted (k : String) (bs : Bytes) :
    skipBlank (utf8 (quoted k) ++ bs)
      = Ascii.quote :: (utf8 (k.toList.flatMap escaped ++ ['"']) ++ bs) :=
  skipBlank_cons (by decide) _

theorem readMembers_cons (hv : item bs = within allowed m (v, mid))
    (hms : readMoreMembers item (mid.length + 1) mid = within allowed n (ms, more)) :
    readMembers item (utf8 (quoted k) ++ Ascii.colon :: bs)
      = within allowed (max m n) ((k, v) :: ms, more) := by
  rw [readMembers_of_quote (skipBlank_quoted k _), readMember_printed k hv]
  refine within_bind ?_
  show (readMoreMembers item (mid.length + 1) mid >>= fun r => pure ((k, v) :: r.1, r.2)) = _
  rw [hms, within_map]

theorem readMoreMembers_cons (hv : item bs = within allowed m (v, mid))
    (hms : readMoreMembers item rounds mid = within allowed n (ms, more)) :
    readMoreMembers item (rounds + 1) (Ascii.comma :: (utf8 (quoted k) ++ Ascii.colon :: bs))
      = within allowed (max m n) ((k, v) :: ms, more) := by
  rw [readMoreMembers_of_comma (skipBlank_cons (by decide) _) (skipBlank_quoted k _),
    readMember_printed k hv]
  refine within_bind ?_
  show (readMoreMembers item rounds mid >>= fun r => pure ((k, v) :: r.1, r.2)) = _
  rw [hms, within_map]

end

/-! ### Whole values -/

mutual

/-- **A printed value is read back** if it does not nest too deep, and refused if it does. -/
theorem readValue_printed : ∀ (v : Value) (allowed : Nat) (more : Bytes),
    (∀ x ∈ v.floats, ReadsBack x) → Apart more →
      readValue allowed (utf8 v.chars ++ more) = within allowed v.nesting (v, more)
  -- A scalar nests nothing, so it is read whatever is allowed.
  | .null, allowed, more, h, hmore => by
      rw [readValue_printed_scalar rfl allowed h hmore]
      exact (within_zero allowed _).symm
  | .bool b, allowed, more, h, hmore => by
      rw [readValue_printed_scalar rfl allowed h hmore]
      exact (within_zero allowed _).symm
  | .number n, allowed, more, h, hmore => by
      rw [readValue_printed_scalar rfl allowed h hmore]
      exact (within_zero allowed _).symm
  | .string s, allowed, more, h, hmore => by
      rw [readValue_printed_scalar rfl allowed h hmore]
      exact (within_zero allowed _).symm
  -- With no level left the opening bracket is refused.
  | .array xs, 0, more, _, _ => by
      rw [chars_array]
      rfl
  | .array xs, allowed + 1, more, h, _ => by
      rw [chars_array]
      show (readItems (readValue allowed) (utf8 (itemsChars xs) ++ more)
        >>= fun r => pure (Value.array r.1, r.2)) = _
      rw [readItems_printed xs allowed more h, within_map, Value.nesting, within_succ_succ]
  | .object ms, 0, more, _, _ => by
      rw [chars_object]
      rfl
  | .object ms, allowed + 1, more, h, _ => by
      -- The reader collects pairs, and the map of these pairs is the map that was printed.
      have hmembers : Value.ofPairs ms.toList = .object ms :=
        congrArg Value.object (Members.ofList_toList ms)
      rw [chars_object]
      show (readMembers (readValue allowed) (utf8 (membersChars ms) ++ more)
        >>= fun r => pure (Value.ofPairs r.1, r.2)) = _
      rw [readMembers_printed ms allowed more h, within_map, Value.nesting, within_succ_succ,
        hmembers]

theorem readItems_printed : ∀ (xs : List Value) (allowed : Nat) (more : Bytes),
    (∀ x ∈ itemsFloats xs, ReadsBack x) →
      readItems (readValue allowed) (utf8 (itemsChars xs) ++ more)
        = within allowed (itemsNesting xs) (xs, more)
  | [], allowed, more, _ => (within_zero allowed _).symm
  | x :: xs, allowed, more, h => by
      rw [itemsFloats, List.forall_mem_append] at h
      obtain ⟨b, bs, hbytes, hblank, hclose⟩ := head_printed x h.1
      have hx := readValue_printed x allowed _ h.1 (apart_moreItems xs more)
      have hrounds : xs.length < (utf8 (moreItems xs) ++ more).length + 1 := by
        have := length_lt_moreItems xs
        rw [List.length_append]
        omega
      have hxs := readMoreItems_printed xs allowed _ more h.2 hrounds
      rw [hbytes, List.cons_append] at hx
      rw [itemsChars, utf8_append, List.append_assoc, hbytes, List.cons_append,
        readItems_cons hblank hclose hx hxs, itemsNesting]

theorem readMembers_printed {bound : Option String} :
    ∀ (ms : Members Value bound) (allowed : Nat) (more : Bytes),
      (∀ x ∈ membersFloats ms, ReadsBack x) →
        readMembers (readValue allowed) (utf8 (membersChars ms) ++ more)
          = within allowed (membersNesting ms) (ms.toList, more)
  | .nil, allowed, more, _ => (within_zero allowed _).symm
  | .cons k above v rest, allowed, more, h => by
      rw [membersFloats, List.forall_mem_append] at h
      have hv := readValue_printed v allowed _ h.1 (apart_moreMembers rest more)
      have hrounds : rest.toList.length < (utf8 (moreMembers rest) ++ more).length + 1 := by
        have := length_lt_moreMembers rest
        rw [List.length_append]
        omega
      have hms := readMoreMembers_printed rest allowed _ more h.2 hrounds
      rw [membersChars, utf8_member, readMembers_cons hv hms, membersNesting, Members.toList]

theorem readMoreItems_printed : ∀ (xs : List Value) (allowed rounds : Nat) (more : Bytes),
    (∀ x ∈ itemsFloats xs, ReadsBack x) → xs.length < rounds →
      readMoreItems (readValue allowed) rounds (utf8 (moreItems xs) ++ more)
        = within allowed (itemsNesting xs) (xs, more)
  | _, _, 0, _, _, hrounds => absurd hrounds (Nat.not_lt_zero _)
  | [], allowed, rounds + 1, _, _, _ => (within_zero allowed _).symm
  | x :: xs, allowed, rounds + 1, more, h, hrounds => by
      rw [itemsFloats, List.forall_mem_append] at h
      obtain ⟨b, bs, hbytes, hblank, hclose⟩ := head_printed x h.1
      have hx := readValue_printed x allowed _ h.1 (apart_moreItems xs more)
      have hxs := readMoreItems_printed xs allowed rounds more h.2 (Nat.lt_of_succ_lt_succ hrounds)
      show readMoreItems (readValue allowed) (rounds + 1)
        (Ascii.comma :: (utf8 (x.chars ++ moreItems xs) ++ more)) = _
      rw [hbytes, List.cons_append] at hx
      rw [utf8_append, List.append_assoc, hbytes, List.cons_append,
        readMoreItems_cons hblank hclose hx hxs, itemsNesting]

theorem readMoreMembers_printed {bound : Option String} :
    ∀ (ms : Members Value bound) (allowed rounds : Nat) (more : Bytes),
      (∀ x ∈ membersFloats ms, ReadsBack x) → ms.toList.length < rounds →
        readMoreMembers (readValue allowed) rounds (utf8 (moreMembers ms) ++ more)
          = within allowed (membersNesting ms) (ms.toList, more)
  | _, _, 0, _, _, hrounds => absurd hrounds (Nat.not_lt_zero _)
  | .nil, allowed, rounds + 1, _, _, _ => (within_zero allowed _).symm
  | .cons k above v rest, allowed, rounds + 1, more, h, hrounds => by
      rw [membersFloats, List.forall_mem_append] at h
      have hv := readValue_printed v allowed _ h.1 (apart_moreMembers rest more)
      have hms := readMoreMembers_printed rest allowed rounds more h.2
        (Nat.lt_of_succ_lt_succ hrounds)
      show readMoreMembers (readValue allowed) (rounds + 1)
        (Ascii.comma :: (utf8 (quoted k ++ ':' :: (v.chars ++ moreMembers rest)) ++ more)) = _
      rw [utf8_member, readMoreMembers_cons hv hms, membersNesting, Members.toList]

end

end ViewLink.Json
