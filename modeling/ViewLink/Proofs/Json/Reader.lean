import ViewLink.Json.Reader
import ViewLink.Proofs.Except

/-!
# What a reader has done

A reader of values that succeeds has gone one of a few ways, and each way is a sequence of shorter
readings. This module says for every reader once which ways there are. What holds of everything that
is read, be it about brackets or about the grammar, goes along them.

The elements of arrays and of objects are read by loops of one shape, `Loop`. To see it in objects,
a member is taken together with the quotation mark that opens its key (`readKeyed`).

## Main definitions

* `readKeyed` — a member and the quotation mark before it;
* `Loop` — the loops over the elements of a list.
-/

set_option autoImplicit false

namespace ViewLink.Json

/-! ## Scalars -/

theorem readWord_eq_ok {word bs rest : Bytes} (h : readWord word bs = .ok rest) :
    bs = word ++ rest := by
  induction word generalizing bs with
  | nil =>
      cases h
      rfl
  | cons w ws ih =>
      cases bs with
      | nil => cases h
      | cons b bs =>
          rw [readWord] at h
          split at h
          · next hb => rw [hb, ih h, List.cons_append]
          · cases h

/-- **A scalar is one of three words, a string or a number.** -/
theorem readScalar_cases {bs rest : Bytes} {v : Value} (h : readScalar bs = .ok (v, rest)) :
    (v = .null ∧ bs = [0x6E, 0x75, 0x6C, 0x6C] ++ rest)
      ∨ (v = .bool true ∧ bs = [0x74, 0x72, 0x75, 0x65] ++ rest)
      ∨ (v = .bool false ∧ bs = [0x66, 0x61, 0x6C, 0x73, 0x65] ++ rest)
      ∨ (∃ s tail, v = .string s ∧ bs = Ascii.quote :: tail ∧ readString tail = .ok (s, rest))
      ∨ ∃ n, v = .number n ∧ readNumber bs = .ok (n, rest) := by
  cases bs with
  | nil => cases h
  | cons b bs =>
      rw [readScalar] at h
      split at h
      · next hb =>
          obtain ⟨rest', hrest, hpure⟩ := bind_eq_ok.1 h
          cases hpure
          exact .inl ⟨rfl, by rw [hb, readWord_eq_ok hrest]; rfl⟩
      split at h
      · next hb =>
          obtain ⟨rest', hrest, hpure⟩ := bind_eq_ok.1 h
          cases hpure
          exact .inr (.inl ⟨rfl, by rw [hb, readWord_eq_ok hrest]; rfl⟩)
      split at h
      · next hb =>
          obtain ⟨rest', hrest, hpure⟩ := bind_eq_ok.1 h
          cases hpure
          exact .inr (.inr (.inl ⟨rfl, by rw [hb, readWord_eq_ok hrest]; rfl⟩))
      split at h
      · next hb =>
          obtain ⟨⟨s, rest'⟩, hs, hpure⟩ := bind_eq_ok.1 h
          cases hpure
          exact .inr (.inr (.inr (.inl ⟨s, bs, rfl, by rw [hb], hs⟩)))
      split at h
      · obtain ⟨⟨n, rest'⟩, hn, hpure⟩ := bind_eq_ok.1 h
        cases hpure
        exact .inr (.inr (.inr (.inr ⟨n, rfl, hn⟩)))
      · cases h

/-! ## Lists -/

section
variable {α : Type}

/-- **The loops over the elements of a list.** The first one reads the byte that closes the list or
the first element, and the second one, for so many rounds, the closing byte or a comma and an
element. -/
structure Loop (list : Reader (List α)) (more : Nat → Reader (List α)) (item : Reader α)
    (close : UInt8) : Prop where
  /-- How a list begins. -/
  list_cases : ∀ {bs rest as}, list bs = .ok (as, rest) →
    (skipBlank bs = close :: rest ∧ as = [])
      ∨ ∃ a mid as', item bs = .ok (a, mid) ∧ more (mid.length + 1) mid = .ok (as', rest)
        ∧ as = a :: as'
  /-- In no round nothing is read. -/
  more_zero : ∀ {bs r}, more 0 bs ≠ .ok r
  /-- How it goes on. -/
  more_cases : ∀ {rounds bs rest as}, more (rounds + 1) bs = .ok (as, rest) →
    (skipBlank bs = close :: rest ∧ as = [])
      ∨ ∃ mid a mid' as', skipBlank bs = Ascii.comma :: mid ∧ item mid = .ok (a, mid')
        ∧ more rounds mid' = .ok (as', rest) ∧ as = a :: as'

end

variable {item : Reader Value}

section
variable {bs mid tail : Bytes} {b : UInt8}

/-- What begins with no closing bracket is an item and the items after it. -/
theorem readItems_of_ne (h : skipBlank bs = b :: tail) (hclose : b ≠ Ascii.closeBracket) :
    readItems item bs = (item bs >>= fun r =>
      readMoreItems item (r.2.length + 1) r.2 >>= fun r' => pure (r.1 :: r'.1, r'.2)) := by
  rw [readItems, h]
  split
  · next h => cases h
  · next h => exact absurd (List.cons.inj h).1 hclose
  · rfl

theorem readMoreItems_of_comma (hcomma : skipBlank bs = Ascii.comma :: mid)
    (h : skipBlank mid = b :: tail) (hclose : b ≠ Ascii.closeBracket) (rounds : Nat) :
    readMoreItems item (rounds + 1) bs = (item mid >>= fun r =>
      readMoreItems item rounds r.2 >>= fun r' => pure (r.1 :: r'.1, r'.2)) := by
  rw [readMoreItems, hcomma]
  split
  · next h => cases h
  · next h => exact absurd (List.cons.inj h).1 (by decide)
  · next rest hrest =>
      obtain rfl := (List.cons.inj hrest).2
      rw [h]
      split
      · next h => cases h
      · next h => exact absurd (List.cons.inj h).1 hclose
      · rfl
  · next hother => exact absurd rfl (hother mid)

theorem readMembers_of_quote (h : skipBlank bs = Ascii.quote :: tail) :
    readMembers item bs = (readMember item tail >>= fun r =>
      readMoreMembers item (r.2.length + 1) r.2 >>= fun r' => pure (r.1 :: r'.1, r'.2)) := by
  rw [readMembers, h]
  rfl

theorem readMoreMembers_of_comma (hcomma : skipBlank bs = Ascii.comma :: mid)
    (h : skipBlank mid = Ascii.quote :: tail) (rounds : Nat) :
    readMoreMembers item (rounds + 1) bs = (readMember item tail >>= fun r =>
      readMoreMembers item rounds r.2 >>= fun r' => pure (r.1 :: r'.1, r'.2)) := by
  rw [readMoreMembers, hcomma]
  split
  · next h => cases h
  · next h => exact absurd (List.cons.inj h).1 (by decide)
  · next rest hrest =>
      obtain rfl := (List.cons.inj hrest).2
      rw [h]
      rfl
  · next hother => exact absurd rfl (hother mid)

end

/-- **Arrays.** -/
theorem loop_items (item : Reader Value) :
    Loop (readItems item) (readMoreItems item) item Ascii.closeBracket where
  list_cases := by
    intro bs rest vs h
    rw [readItems] at h
    split at h
    · cases h
    · next hclose =>
        cases h
        exact .inl ⟨hclose, rfl⟩
    · obtain ⟨⟨v, mid⟩, hv, h₁⟩ := bind_eq_ok.1 h
      obtain ⟨⟨vs', rest'⟩, hvs, hpure⟩ := bind_eq_ok.1 h₁
      cases hpure
      exact .inr ⟨v, mid, vs', hv, hvs, rfl⟩
  more_zero := by
    intro bs r h
    cases h
  more_cases := by
    intro rounds bs rest vs h
    rw [readMoreItems] at h
    split at h
    · cases h
    · next hclose =>
        cases h
        exact .inl ⟨hclose, rfl⟩
    · next mid hcomma =>
        split at h
        · cases h
        · cases h
        · obtain ⟨⟨v, mid'⟩, hv, h₁⟩ := bind_eq_ok.1 h
          obtain ⟨⟨vs', rest'⟩, hvs, hpure⟩ := bind_eq_ok.1 h₁
          cases hpure
          exact .inr ⟨mid, v, mid', vs', hcomma, hv, hvs, rfl⟩
    · cases h

/-- A member together with the quotation mark that opens its key. -/
def readKeyed (item : Reader Value) : Reader (String × Value) := fun bs =>
  match skipBlank bs with
  | Ascii.quote :: rest => readMember item rest
  | _ => .error .malformed

theorem readKeyed_eq_ok {bs : Bytes} {r : (String × Value) × Bytes} :
    readKeyed item bs = .ok r
      ↔ ∃ key, skipBlank bs = Ascii.quote :: key ∧ readMember item key = .ok r := by
  constructor
  · intro h
    rw [readKeyed] at h
    split at h
    · next key hquote => exact ⟨key, hquote, h⟩
    · cases h
  · rintro ⟨key, hquote, h⟩
    rw [readKeyed, hquote]
    exact h

/-- **Objects.** -/
theorem loop_members (item : Reader Value) :
    Loop (readMembers item) (readMoreMembers item) (readKeyed item) Ascii.closeBrace where
  list_cases := by
    intro bs rest ms h
    rw [readMembers] at h
    split at h
    · cases h
    · next hclose =>
        cases h
        exact .inl ⟨hclose, rfl⟩
    · next key hquote =>
        obtain ⟨⟨m, mid⟩, hm, h₁⟩ := bind_eq_ok.1 h
        obtain ⟨⟨ms', rest'⟩, hms, hpure⟩ := bind_eq_ok.1 h₁
        cases hpure
        exact .inr ⟨m, mid, ms', readKeyed_eq_ok.2 ⟨key, hquote, hm⟩, hms, rfl⟩
    · cases h
  more_zero := by
    intro bs r h
    cases h
  more_cases := by
    intro rounds bs rest ms h
    rw [readMoreMembers] at h
    split at h
    · cases h
    · next hclose =>
        cases h
        exact .inl ⟨hclose, rfl⟩
    · next mid hcomma =>
        split at h
        · cases h
        · next key hquote =>
            obtain ⟨⟨m, mid'⟩, hm, h₁⟩ := bind_eq_ok.1 h
            obtain ⟨⟨ms', rest'⟩, hms, hpure⟩ := bind_eq_ok.1 h₁
            cases hpure
            have hkeyed : readKeyed item mid = .ok (m, mid') :=
              readKeyed_eq_ok.2 ⟨key, hquote, hm⟩
            exact .inr ⟨mid, m, mid', ms', hcomma, hkeyed, hms, rfl⟩
        · cases h
    · cases h

/-- **A member is a key, a colon and a value.** -/
theorem readMember_cases {bs rest : Bytes} {k : String} {v : Value}
    (h : readMember item bs = .ok ((k, v), rest)) :
    ∃ afterKey atValue, readString bs = .ok (k, afterKey)
      ∧ skipBlank afterKey = Ascii.colon :: atValue ∧ item atValue = .ok (v, rest) := by
  obtain ⟨⟨k', afterKey⟩, hkey, h₁⟩ := bind_eq_ok.1 h
  simp only at h₁
  split at h₁
  · cases h₁
  · next atValue hcolon =>
      obtain ⟨⟨v', rest'⟩, hv, hpure⟩ := bind_eq_ok.1 h₁
      cases hpure
      exact ⟨afterKey, atValue, hkey, hcolon, hv⟩
  · cases h₁

/-! ## Values -/

/-- **A value is a scalar, or an array or an object of values that nest less deep.** -/
theorem readValue_cases {nesting : Nat} {bs rest : Bytes} {v : Value}
    (h : readValue nesting bs = .ok (v, rest)) :
    readScalar (skipBlank bs) = .ok (v, rest)
      ∨ ∃ less tail, nesting = less + 1
        ∧ ((skipBlank bs = Ascii.openBracket :: tail
              ∧ ∃ vs, readItems (readValue less) tail = .ok (vs, rest) ∧ v = .array vs)
            ∨ (skipBlank bs = Ascii.openBrace :: tail
              ∧ ∃ ms, readMembers (readValue less) tail = .ok (ms, rest) ∧ v = .ofPairs ms)) := by
  cases nesting with
  | zero =>
      rw [readValue] at h
      split at h
      · cases h
      · cases h
      · exact .inl h
  | succ less =>
      rw [readValue] at h
      split at h
      · next tail hopen =>
          obtain ⟨⟨vs, rest'⟩, hvs, hpure⟩ := bind_eq_ok.1 h
          cases hpure
          exact .inr ⟨less, tail, rfl, .inl ⟨hopen, vs, hvs, rfl⟩⟩
      · next tail hopen =>
          obtain ⟨⟨ms, rest'⟩, hms, hpure⟩ := bind_eq_ok.1 h
          cases hpure
          exact .inr ⟨less, tail, rfl, .inr ⟨hopen, ms, hms, rfl⟩⟩
      · exact .inl h

end ViewLink.Json
