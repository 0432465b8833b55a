import ViewLink.Proofs.Wire.ResultLines

/-!
# Lines that delimit themselves

A channel may tear a line off or glue another one to it. Neither can be taken for a line of results:
what is left of a line that holds results holds none, unless only blanks are missing, and what is
put behind it makes it malformed, unless it is blanks again. The same is true of batches
(`lines_delimit_themselves`).

Both halves are one fact about the reader of pairs, for it reads the text of a pair in the same way
whatever stands behind the closing bracket (`readPair_append`). If the front part of a text were a
pair by itself, the rest of the text would stand behind it.
-/

set_option autoImplicit false

namespace ViewLink

open Json

/-! ## Texts of pairs -/

namespace Wire

variable {list : Reader (List Value)} {text : Bytes → List Value → Prop}

/-- **Behind a pair there may be blanks and nothing else.** -/
theorem readPair_append (hlist : Reads list text) {bs : Bytes} {r : UInt64 × List Value}
    (h : readPair list bs = .ok r) (more : Bytes) :
    readPair list (bs ++ more) = match skipBlank more with
      | [] => .ok r
      | _ => .error .malformed := by
  obtain ⟨n, vs⟩ := r
  obtain ⟨pair, tail, hpair, htail, rfl⟩ := readPair_sound hlist h
  have hread := readPair_complete hlist hpair (tail ++ more)
  rw [← List.append_assoc, skipBlank_append htail] at hread
  exact hread

theorem readPair_append_blanks (hlist : Reads list text) {bs : Bytes} {r : UInt64 × List Value}
    (h : readPair list bs = .ok r) {more : Bytes} (hmore : Blanks more) :
    readPair list (bs ++ more) = .ok r := by
  rw [readPair_append hlist h, skipBlank_eq_nil.2 hmore]

/-- **A text with anything else behind it is no pair.** -/
theorem readPair_glued (hlist : Reads list text) {bs : Bytes} {r : UInt64 × List Value}
    (h : readPair list bs = .ok r) {more : Bytes} (hmore : ∃ b ∈ more, isBlank b = false) :
    readPair list (bs ++ more) = .error .malformed := by
  rw [readPair_append hlist h]
  split
  · next hblanks =>
      obtain ⟨b, hb, hblank⟩ := hmore
      rw [skipBlank_eq_nil.1 hblanks b hb] at hblank
      cases hblank
  · rfl

/-- **The front part of a pair is no pair**, unless only blanks at the end are missing. -/
theorem readPair_torn (hlist : Reads list text) {bs : Bytes} {r : UInt64 × List Value}
    (h : readPair list bs = .ok r) (hlast : ∀ b ∈ bs.getLast?, isBlank b = false) {torn : Bytes}
    (hpart : torn <+: bs) (hne : torn ≠ bs) :
    ∃ fault, readPair list torn = .error fault := by
  cases htorn : readPair list torn with
  | error fault => exact ⟨fault, rfl⟩
  | ok r' =>
      exfalso
      obtain ⟨more, rfl⟩ := hpart
      have hmore : more ≠ [] := by
        rintro rfl
        exact hne (List.append_nil torn).symm
      -- The last byte of the text is among those that are missing.
      have hmissing : more.getLast hmore ∈ (torn ++ more).getLast? := by
        rw [List.getLast?_append, List.getLast?_eq_some_getLast hmore]
        rfl
      have hglued := readPair_glued hlist htorn
        ⟨more.getLast hmore, List.getLast_mem hmore, hlast _ hmissing⟩
      rw [h] at hglued
      cases hglued

/-- Blanks at the end of a text are of no account. -/
theorem readPair_rdropWhile (hlist : Reads list text) {bs : Bytes} {r : UInt64 × List Value}
    (h : readPair list bs = .ok r) : readPair list (bs.rdropWhile isBlank) = .ok r := by
  obtain ⟨n, vs⟩ := r
  obtain ⟨pair, tail, hpair, htail, rfl⟩ := readPair_sound hlist h
  have hread := readPair_complete hlist hpair []
  rw [List.append_nil] at hread
  obtain ⟨front, rfl⟩ := hpair.concat
  rw [rdropWhile_append (by decide) htail]
  exact hread

end Wire

/-! ## Results -/

namespace Results

variable {line : Bytes} {r : Results}

/-- **What is left of a line that holds results holds none.** -/
theorem parse_torn (h : parse line = .ok r) {torn : Bytes} (hpart : torn <+: trimLineEnd line)
    (hne : torn ≠ trimLineEnd line) : ∃ e, parse torn = .error e := by
  obtain ⟨-, -, -, hlast⟩ := trimLineEnd_spec line
  have hshort : trimLineEnd torn <+: torn := List.rdropWhile_prefix isLineBlank torn
  cases htorn : parse torn with
  | error e => exact ⟨e, rfl⟩
  | ok r' =>
      exfalso
      -- The blanks that the torn line ends with are trimmed away, which makes it shorter still.
      have hrest : trimLineEnd torn ≠ trimLineEnd line := by
        intro heq
        exact hne (hpart.eq_of_length_le (heq ▸ hshort.length_le))
      obtain ⟨fault, hfault⟩ := Wire.readPair_torn Wire.reads_listOrNull (parse_eq_ok.1 h)
        (fun b hb => not_blank_of_not_lineBlank (hlast b hb)) (hshort.trans hpart) hrest
      rw [parse_eq_ok.1 htorn] at hfault
      cases hfault

/-- **A line of results with anything else behind it is malformed.** -/
theorem parse_glued (h : parse line = .ok r) {more : Bytes}
    (hmore : ∃ b ∈ more, isLineBlank b = false) :
    parse (trimLineEnd line ++ more) = .error (.malformed .malformed) := by
  obtain ⟨front, last, hlast, htrim⟩ := trimLineEnd_append_of_not_blank (trimLineEnd line) hmore
  have hglued := Wire.readPair_glued Wire.reads_listOrNull (parse_eq_ok.1 h)
    ⟨last, List.mem_append_right front (List.mem_singleton.2 rfl), not_blank_of_not_lineBlank hlast⟩
  have hne : trimLineEnd (trimLineEnd line ++ more) ≠ [] := by
    rw [htrim]
    simp
  rw [parse_of_ne_nil hne, htrim, hglued]

/-- **Blanks behind a line of results change nothing.** -/
theorem parse_append_blanks (h : parse line = .ok r) {more : Bytes}
    (hmore : ∀ b ∈ more, isLineBlank b = true) : parse (trimLineEnd line ++ more) = .ok r := by
  rw [parse_eq_ok, trimLineEnd_append_blanks line hmore]
  exact parse_eq_ok.1 h

end Results

/-! ## Lines and batches -/

/-- **Lines of results and batches delimit themselves.** Let a line hold results, and take away the
blanks at its end. Then no front part of it holds results, with any other byte than blanks behind it
it is refused, and with blanks it holds the same results again. For the text of a batch this is so
with the blanks of JSON. -/
theorem lines_delimit_themselves :
    (∀ (line : Bytes) (r : Results), Results.parse line = .ok r →
      let text := trimLineEnd line
      (∀ torn, torn <+: text → torn ≠ text → ∃ e, Results.parse torn = .error e)
        ∧ (∀ more, (∃ c ∈ more, isLineBlank c = false) →
            ∃ e, Results.parse (text ++ more) = .error e)
        ∧ ∀ more, (∀ c ∈ more, isLineBlank c = true) → Results.parse (text ++ more) = .ok r)
    ∧ ∀ (written : Bytes) (b : Batch), Batch.read written = .ok b →
      let text := written.rdropWhile isBlank
      (∀ torn, torn <+: text → torn ≠ text → ∃ fault, Batch.read torn = .error fault)
        ∧ (∀ more, (∃ c ∈ more, isBlank c = false) →
            ∃ fault, Batch.read (text ++ more) = .error fault)
        ∧ ∀ more, (∀ c ∈ more, isBlank c = true) → Batch.read (text ++ more) = .ok b := by
  constructor
  · intro line r h text
    exact ⟨fun torn hpart hne => Results.parse_torn h hpart hne,
      fun more hmore => ⟨_, Results.parse_glued h hmore⟩,
      fun more hmore => Results.parse_append_blanks h hmore⟩
  · intro written b h text
    have hpair : Wire.readPair Wire.readList text = .ok (b.sequence, b.commands) :=
      Wire.readPair_rdropWhile Wire.reads_list (Batch.read_eq_ok.1 h)
    refine ⟨fun torn hpart hne => ?_, fun more hmore => ?_, fun more hmore => ?_⟩
    · obtain ⟨fault, hfault⟩ := Wire.readPair_torn Wire.reads_list hpair
        (getLast?_rdropWhile written) hpart hne
      exact ⟨fault, Batch.read_eq_error.2 hfault⟩
    · exact ⟨_, Batch.read_eq_error.2 (Wire.readPair_glued Wire.reads_list hpair hmore)⟩
    · exact Batch.read_eq_ok.2 (Wire.readPair_append_blanks Wire.reads_list hpair hmore)

/-- A line is cut inside a character of two octets, and another line is glued to it. A form feed may
stand behind results, but not behind a batch. -/
theorem lines_delimit_of_splitCharacter :
    let line := Text.bytes "[7,[\"é\"]] \n"
    let text := Text.bytes "[7,[\"é\"]]"
    Results.parse line = .ok ⟨7, [.string "é"]⟩
      ∧ (∃ e, Results.parse (text.take 6) = .error e)
      ∧ (∃ e, Results.parse (text ++ Text.bytes "[8,[]]\n") = .error e)
      ∧ Results.parse (text ++ [Ascii.formFeed, Ascii.newline]) = .ok ⟨7, [.string "é"]⟩
      ∧ (∃ fault, Batch.read (text.take 6) = .error fault)
      ∧ ∃ fault, Batch.read (text ++ [Ascii.formFeed, Ascii.newline]) = .error fault := by
  intro line text
  have hparse : Results.parse line = .ok ⟨7, [.string "é"]⟩ := rfl
  have hread : Batch.read line = .ok ⟨7, [.string "é"]⟩ := rfl
  have htrim : trimLineEnd line = text := by decide +kernel
  have hdrop : line.rdropWhile isBlank = text := by decide +kernel
  have hcut : text.take 6 ≠ text := by decide +kernel
  obtain ⟨hresults, hbatches⟩ := lines_delimit_themselves
  obtain ⟨htorn, hglued, hblanks⟩ := hresults line _ hparse
  obtain ⟨htornBatch, hgluedBatch, -⟩ := hbatches line _ hread
  simp only [htrim, hdrop] at htorn hglued hblanks htornBatch hgluedBatch
  exact ⟨hparse, htorn _ (List.take_prefix 6 text) hcut,
    hglued _ ⟨Ascii.openBracket, by decide +kernel, by decide⟩, hblanks _ (by simp [isLineBlank]),
    htornBatch _ (List.take_prefix 6 text) hcut,
    hgluedBatch _ ⟨Ascii.formFeed, by simp, by decide⟩⟩

end ViewLink
