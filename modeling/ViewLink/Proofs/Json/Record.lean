import ViewLink.Proofs.Json.RoundTrip

/-!
# Records that are read back

A record is an object whose members are written in an order of their own. The texts of the members
may come from anywhere, as long as each is a text of a value; then the record is a text of the object
that has these values under the keys (`valueText_record`).

Printed values are such texts (`valueText_printed`).
-/

set_option autoImplicit false

namespace ViewLink.Json

open Text (utf8 bytes bytes_append utf8_append utf8_cons)

/-- **A printed value is a text of the grammar**, with as much nesting as it has. -/
theorem valueText_printed {v : Value} {nesting : Nat} (hnesting : v.nesting ≤ nesting)
    (hfloats : ∀ x ∈ v.floats, ReadsBack x) : ValueText nesting (bytes v.text) v := by
  have hread := readValue_printed v nesting [] hfloats apart_nil
  rw [within, if_pos hnesting] at hread
  obtain ⟨ws, t, hws, ht, hbytes⟩ := (reads_value nesting).sound hread
  obtain ⟨b, bs, hhead, hblank, -⟩ := head_printed v hfloats
  -- The text begins with no blank, so the text that was read is all of it.
  have hnone : ws = [] := by
    cases ws with
    | nil => rfl
    | cons w ws =>
        rw [hhead, List.cons_append, List.cons_append, List.cons.injEq] at hbytes
        have hw := hws w (by simp)
        rw [← hbytes.1, hblank] at hw
        cases hw
  rw [List.append_nil, hnone, List.nil_append, List.append_nil] at hbytes
  rw [Value.text, bytes, String.toList_ofList, hbytes]
  exact ht

/-! ## Records -/

/-- **A member of a record**: its key, the text of its value and the value. -/
structure Entry where
  /-- The key. -/
  key : String
  /-- The text of the value. -/
  text : String
  /-- The value. -/
  value : Value

/-- The member as it is written. -/
def Entry.written (e : Entry) : String := String.ofList (quoted e.key) ++ ":" ++ e.text

/-- The member as part of the object. -/
def Entry.pair (e : Entry) : String × Value := (e.key, e.value)

variable {nesting : Nat}

theorem blanks_nil : Blanks [] := by simp [Blanks]

theorem memberText_written {e : Entry} (h : ValueText nesting (bytes e.text) e.value) :
    MemberText (ValueText nesting) (bytes e.written) e.pair := by
  have hkey : bytes (String.ofList (quoted e.key))
      = Ascii.quote :: (utf8 (e.key.toList.flatMap escaped) ++ [Ascii.quote]) := by
    rw [bytes, String.toList_ofList, quoted, utf8_cons, utf8_append]
    rfl
  have hwritten : bytes e.written = Ascii.quote :: (utf8 (e.key.toList.flatMap escaped)
      ++ Ascii.quote :: ([] ++ Ascii.colon :: ([] ++ bytes e.text))) := by
    have hcolon : bytes ":" = [Ascii.colon] := rfl
    rw [Entry.written, bytes_append, bytes_append, hkey, hcolon]
    simp
  rw [hwritten]
  exact .mk (charsText_flatMap_escaped _) blanks_nil blanks_nil h

/-- The members after the first one, and the brace. -/
theorem exists_moreText (e : Entry) (es : List Entry)
    (h : ∀ e ∈ es, ValueText nesting (bytes e.text) e.value) :
    ∃ more, MoreText (MemberText (ValueText nesting)) Ascii.closeBrace more (es.map Entry.pair)
      ∧ bytes (",".intercalate ((e :: es).map Entry.written)) ++ [Ascii.closeBrace]
          = bytes e.written ++ more := by
  induction es generalizing e with
  | nil => exact ⟨_, .close blanks_nil, by simp⟩
  | cons next es ih =>
      obtain ⟨hnext, hes⟩ := List.forall_mem_cons.1 h
      obtain ⟨more, hmore, hbytes⟩ := ih next hes
      refine ⟨[] ++ Ascii.comma :: ([] ++ (bytes next.written ++ more)),
        .more blanks_nil blanks_nil (memberText_written hnext) hmore, ?_⟩
      have hcomma : bytes "," = [Ascii.comma] := rfl
      rw [List.map_cons] at hbytes
      rw [List.map_cons, List.map_cons, String.intercalate_cons_cons, bytes_append, bytes_append,
        List.append_assoc, hbytes, hcomma]
      simp

/-- **A record is a text of the object of its members.** -/
theorem valueText_record (es : List Entry)
    (h : ∀ e ∈ es, ValueText nesting (bytes e.text) e.value) :
    ValueText (nesting + 1) (bytes (record (es.map fun e => (e.key, e.text))))
      (.ofPairs (es.map Entry.pair)) := by
  have hwritten : bytes (record (es.map fun e => (e.key, e.text)))
      = Ascii.openBrace
        :: (bytes (",".intercalate (es.map Entry.written)) ++ [Ascii.closeBrace]) := by
    rw [record, List.map_map, bytes_append, bytes_append]
    rfl
  rw [hwritten]
  refine NestedText.object ?_
  cases es with
  | nil => exact .empty blanks_nil
  | cons e es =>
      obtain ⟨he, hes⟩ := List.forall_mem_cons.1 h
      obtain ⟨more, hmore, hbytes⟩ := exists_moreText e es hes
      have hlist := ListText.some blanks_nil (memberText_written he) hmore
      rw [List.nil_append, ← hbytes] at hlist
      exact hlist

end ViewLink.Json
