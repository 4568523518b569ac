import Stomp.Proofs.Header.Table
import Stomp.Proofs.Json.Number
import Stomp.Proofs.Json.Text

/-!
# JSON read back

A value without reals is written as printable ASCII, and the reader gets it back from its text
(`exists_written`, `read_written`). Each step of the reader uses up a character, so as many steps as
there are characters are enough; the text of a value may stand before anything that closes it.
-/

namespace Stomp

namespace Assoc

variable {α : Type}

theorem foldl_insert {acc pairs : List (String × α)} (h : (names (acc ++ pairs)).Nodup) :
    pairs.foldl (fun entries p => insert entries p.1 p.2) acc = acc ++ pairs := by
  induction pairs generalizing acc with
  | nil => rw [List.foldl_nil, List.append_nil]
  | cons p pairs ih =>
      have hp : p.1 ∉ names acc := by
        simp only [names, List.map_append, List.map_cons, List.nodup_append] at h
        intro hmem
        exact h.2.2 p.1 hmem p.1 (by simp) rfl
      rw [List.foldl_cons, insert_of_not_mem p.2 hp, ih (by simpa using h), List.append_assoc,
        List.singleton_append]

theorem ofList_eq_self {pairs : List (String × α)} (h : (names pairs).Nodup) :
    ofList pairs = pairs :=
  foldl_insert h

end Assoc

namespace Json

/-- Integers have a limited number of digits, and the names in an object differ. -/
inductive Proper : Json → Prop
  | null : Proper .null
  | bool (b : Bool) : Proper (.bool b)
  | int {n : Int} : n.natAbs < 10 ^ Numeral.digitLimit → Proper (.int n)
  | real (x : Float) : Proper (.real x)
  | text (s : String) : Proper (.text s)
  | list {xs : List Json} : (∀ x ∈ xs, Proper x) → Proper (.list xs)
  | object {ms : List (String × Json)} : (Assoc.names ms).Nodup → (∀ m ∈ ms, Proper m.2) →
      Proper (.object ms)

inductive RealFree : Json → Prop
  | null : RealFree .null
  | bool (b : Bool) : RealFree (.bool b)
  | int (n : Int) : RealFree (.int n)
  | text (s : String) : RealFree (.text s)
  | list {xs : List Json} : (∀ x ∈ xs, RealFree x) → RealFree (.list xs)
  | object {ms : List (String × Json)} : (∀ m ∈ ms, RealFree m.2) → RealFree (.object ms)

/-- A text begins with something that is no blank and ends no list. -/
def Opens (cs : List Char) : Prop := ∃ c rest, cs = c :: rest ∧ isBlank c = false ∧ c ≠ ']'

/-- The text is what is written for the value, and is read as the value. -/
structure Written (j : Json) (cs : List Char) : Prop where
  writeChars : j.writeChars = .ok cs
  printable : ∀ c ∈ cs, Printable c
  opens : Opens cs
  readValue (steps : Nat) (rest : List Char) : cs.length ≤ steps → Closes rest →
    readValue steps (cs ++ rest) = .ok (j, rest)

/-- The text is what is written for the items after the first one. -/
structure WrittenItems (xs : List Json) (tail : List Char) : Prop where
  writeItems : writeItems xs = .ok tail
  printable : ∀ c ∈ tail, Printable c
  readItems {x : Json} {cs : List Char} (steps : Nat) (rest : List Char) : Written x cs →
    (cs ++ tail).length ≤ steps → readItems steps (cs ++ (tail ++ rest)) = .ok (x :: xs, rest)

/-- The text is what is written for the members after the first one. -/
structure WrittenMembers (ms : List (String × Json)) (tail : List Char) : Prop where
  writeMembers : writeMembers ms = .ok tail
  printable : ∀ c ∈ tail, Printable c
  readMembers (name : String) {x : Json} {cs : List Char} (steps : Nat) (rest : List Char) :
    Written x cs → (cs ++ tail).length + 1 ≤ steps →
    readMembers steps (writeText name ++ ':' :: ' ' :: (cs ++ (tail ++ rest))) =
      .ok ((name, x) :: ms, rest)

theorem Opens.skipBlanks {cs : List Char} (h : Opens cs) (rest : List Char) :
    skipBlanks (cs ++ rest) = cs ++ rest := by
  obtain ⟨c, cs, rfl, hc, -⟩ := h
  exact List.dropWhile_cons_of_neg (by simp [hc])

theorem skipBlanks_space (input : List Char) : skipBlanks (' ' :: input) = skipBlanks input := rfl

theorem written_of_step {j : Json} {cs : List Char} (hwrite : j.writeChars = .ok cs)
    (hprintable : ∀ c ∈ cs, Printable c) (hopens : Opens cs)
    (hread : ∀ steps rest, cs.length ≤ steps + 1 → Closes rest →
      readValue (steps + 1) (cs ++ rest) = .ok (j, rest)) : Written j cs where
  writeChars := hwrite
  printable := hprintable
  opens := hopens
  readValue steps rest hsteps hrest := by
    cases steps with
    | zero =>
        obtain ⟨c, cs, rfl, -⟩ := hopens
        simp at hsteps
    | succ steps => exact hread steps rest hsteps hrest

/-! ## Simple values -/

theorem written_null : Written .null "null".toList :=
  written_of_step (by rw [Json.writeChars]) (printable_of_all (by decide))
    ⟨'n', _, rfl, by decide, by decide⟩ fun _ _ _ _ => rfl

theorem written_true : Written (.bool true) "true".toList :=
  written_of_step (by rw [Json.writeChars]) (printable_of_all (by decide))
    ⟨'t', _, rfl, by decide, by decide⟩ fun _ _ _ _ => rfl

theorem written_false : Written (.bool false) "false".toList :=
  written_of_step (by rw [Json.writeChars]) (printable_of_all (by decide))
    ⟨'f', _, rfl, by decide, by decide⟩ fun _ _ _ _ => rfl

theorem exists_write_eq_cons (n : Int) :
    ∃ c cs, Numeral.write n = c :: cs ∧ (c = '-' ∨ c.isDigit = true) := by
  rw [Numeral.write]
  split
  · exact ⟨'-', _, rfl, Or.inl rfl⟩
  · obtain ⟨c, cs, hcs⟩ := List.exists_cons_of_ne_nil (Numeral.digits_ne_nil n.natAbs)
    exact ⟨c, cs, hcs, Or.inr (Numeral.isDigit_of_mem_digits (n := n.natAbs) (by simp [hcs]))⟩

theorem opens_write (n : Int) : Opens (Numeral.write n) := by
  obtain ⟨c, cs, hcs, hc⟩ := exists_write_eq_cons n
  refine ⟨c, cs, hcs, ?_, ?_⟩
  · simp only [isBlank, Bool.or_eq_false_iff, beq_eq_false_iff_ne]
    refine ⟨⟨⟨?_, ?_⟩, ?_⟩, ?_⟩ <;> rintro rfl <;> revert hc <;> decide
  · rintro rfl
    revert hc
    decide

theorem printable_write (n : Int) : ∀ c ∈ Numeral.write n, Printable c := by
  have hdigits : ∀ c ∈ Numeral.digits n.natAbs, Printable c := by
    intro c hc
    have := Numeral.toNat_of_isDigit (Numeral.isDigit_of_mem_digits hc)
    exact ⟨by omega, by omega⟩
  rw [Numeral.write]
  split
  · exact List.forall_mem_cons.2 ⟨by decide, hdigits⟩
  · exact hdigits

theorem readValue_write (n : Int) (steps : Nat) (rest : List Char) :
    readValue (steps + 1) (Numeral.write n ++ rest) = readNumber (Numeral.write n ++ rest) := by
  obtain ⟨c, cs, hcs, hc⟩ := exists_write_eq_cons n
  rw [hcs, List.cons_append, Json.readValue]
  all_goals
    intro r hr
    rw [(List.cons.inj hr).1] at hc
    revert hc
    decide

theorem written_int {n : Int} (h : n.natAbs < 10 ^ Numeral.digitLimit) :
    Written (.int n) (Numeral.write n) := by
  apply written_of_step (by rw [Json.writeChars]) (printable_write n) (opens_write n)
  intro steps rest _ hrest
  rw [readValue_write, readNumber_write h hrest]

theorem writeText_append (s : String) (rest : List Char) :
    writeText s ++ rest = '"' :: (s.toList.flatMap escapeChar ++ '"' :: rest) := by
  simp [writeText]

theorem written_text (s : String) : Written (.text s) (writeText s) := by
  apply written_of_step (by rw [Json.writeChars]) (printable_writeText s)
    ⟨'"', _, rfl, by decide, by decide⟩
  intro steps rest _ _
  rw [writeText_append, Json.readValue, readText_written]

/-! ## Lists -/

theorem writtenItems_nil : WrittenItems [] [']'] where
  writeItems := by rw [Json.writeItems]
  printable := printable_of_all (by decide)
  readItems {x cs} steps rest hx hsteps := by
    rw [List.length_append, List.length_singleton] at hsteps
    obtain ⟨steps, rfl⟩ : ∃ k, steps = k + 1 := ⟨steps - 1, by omega⟩
    have hvalue := hx.readValue steps (']' :: rest) (by omega) (by simp [Closes])
    rw [List.singleton_append, Json.readItems, hvalue]
    rfl

theorem writtenItems_cons {x : Json} {xs : List Json} {cs tail : List Char} (hx : Written x cs)
    (hxs : WrittenItems xs tail) : WrittenItems (x :: xs) (',' :: ' ' :: (cs ++ tail)) where
  writeItems := by
    rw [Json.writeItems, hx.writeChars, hxs.writeItems]
    rfl
  printable := by
    have hmore := List.forall_mem_append.2 ⟨hx.printable, hxs.printable⟩
    exact List.forall_mem_cons.2 ⟨by decide, List.forall_mem_cons.2 ⟨by decide, hmore⟩⟩
  readItems {y ds} steps rest hy hsteps := by
    simp only [List.length_append, List.length_cons] at hsteps
    obtain ⟨steps, rfl⟩ : ∃ k, steps = k + 1 := ⟨steps - 1, by omega⟩
    have hfirst := hy.readValue steps (',' :: ' ' :: (cs ++ (tail ++ rest)))
      (by omega) (by simp [Closes])
    have hlater := hxs.readItems steps rest hx (by rw [List.length_append]; omega)
    have hskip := hx.opens.skipBlanks (tail ++ rest)
    have hcomma : skipBlanks (',' :: ' ' :: (cs ++ (tail ++ rest))) =
        ',' :: ' ' :: (cs ++ (tail ++ rest)) := rfl
    simp only [List.cons_append, List.append_assoc]
    rw [Json.readItems, hfirst]
    simp only [hcomma, skipBlanks_space, hskip]
    obtain ⟨c, cs', rfl, -, hc⟩ := hx.opens
    split
    · rename_i r hr
      exact absurd (List.cons.inj hr).1 hc
    · rw [hlater]

theorem exists_writtenItems {xs : List Json} (h : ∀ x ∈ xs, ∃ cs, Written x cs) :
    ∃ tail, WrittenItems xs tail := by
  induction xs with
  | nil => exact ⟨_, writtenItems_nil⟩
  | cons x xs ih =>
      obtain ⟨hx, hxs⟩ := List.forall_mem_cons.1 h
      obtain ⟨cs, hx⟩ := hx
      obtain ⟨tail, hxs⟩ := ih hxs
      exact ⟨_, writtenItems_cons hx hxs⟩

theorem written_emptyList : Written (.list []) ['[', ']'] :=
  written_of_step (by rw [Json.writeChars]) (printable_of_all (by decide))
    ⟨'[', _, rfl, by decide, by decide⟩ fun _ _ _ _ => rfl

theorem written_list {x : Json} {xs : List Json} {cs tail : List Char} (hx : Written x cs)
    (hxs : WrittenItems xs tail) : Written (.list (x :: xs)) ('[' :: (cs ++ tail)) := by
  have hmore := List.forall_mem_append.2 ⟨hx.printable, hxs.printable⟩
  apply written_of_step _ (List.forall_mem_cons.2 ⟨by decide, hmore⟩)
    ⟨'[', _, rfl, by decide, by decide⟩
  · intro steps rest hsteps _
    have hitems := hxs.readItems steps rest hx
      (by rw [List.length_cons] at hsteps; omega)
    have hskip := hx.opens.skipBlanks (tail ++ rest)
    rw [List.cons_append, List.append_assoc, Json.readValue, hskip]
    obtain ⟨c, cs', rfl, -, hc⟩ := hx.opens
    split
    · rename_i r hr
      exact absurd (List.cons.inj hr).1 hc
    · rename_i hr
      cases hr
    · rw [hitems]
  · rw [Json.writeChars, hx.writeChars, hxs.writeItems]
    rfl

/-! ## Objects -/

theorem skipBlanks_colon (input : List Char) : skipBlanks (':' :: input) = ':' :: input := rfl

theorem skipBlanks_writeText (s : String) (rest : List Char) :
    skipBlanks (writeText s ++ rest) = writeText s ++ rest :=
  (written_text s).opens.skipBlanks rest

theorem printable_member {name : String} {cs : List Char} (h : ∀ c ∈ cs, Printable c) :
    ∀ c ∈ writeText name ++ ':' :: ' ' :: cs, Printable c := by
  rw [List.forall_mem_append, List.forall_mem_cons, List.forall_mem_cons]
  exact ⟨printable_writeText name, by decide, by decide, h⟩

section Member

variable {name other : String} {x : Json} {ms : List (String × Json)} {cs rest after : List Char}
  {steps : Nat}

theorem readMembers_last (hx : Written x cs) (hsteps : cs.length ≤ steps) :
    readMembers (steps + 1) (writeText name ++ ':' :: ' ' :: (cs ++ '\x7d' :: rest)) =
      .ok ([(name, x)], rest) := by
  have hvalue := hx.readValue steps ('\x7d' :: rest) hsteps (by simp [Closes])
  rw [writeText_append, readMembers, readText_written]
  simp only [skipBlanks_colon, skipBlanks_space, hx.opens.skipBlanks, hvalue]
  rfl

theorem readMembers_more (hx : Written x cs) (hsteps : cs.length ≤ steps)
    (hmore : readMembers steps (writeText other ++ rest) = .ok (ms, after)) :
    readMembers (steps + 1)
      (writeText name ++ ':' :: ' ' :: (cs ++ ',' :: ' ' :: (writeText other ++ rest))) =
        .ok ((name, x) :: ms, after) := by
  have hvalue := hx.readValue steps (',' :: ' ' :: (writeText other ++ rest)) hsteps
    (by simp [Closes])
  have hcomma : ∀ input, skipBlanks (',' :: input) = ',' :: input := fun _ => rfl
  rw [writeText_append, readMembers, readText_written]
  simp only [skipBlanks_colon, skipBlanks_space, hx.opens.skipBlanks, hvalue, hcomma,
    skipBlanks_writeText]
  rw [writeText_append] at hmore ⊢
  split
  · rename_i r hr
    exact absurd (List.cons.inj hr).1 (by decide)
  · rw [hmore]

end Member

theorem writtenMembers_nil : WrittenMembers [] ['\x7d'] where
  writeMembers := by rw [Json.writeMembers]
  printable := printable_of_all (by decide)
  readMembers name {x cs} steps rest hx hsteps := by
    rw [List.length_append, List.length_singleton] at hsteps
    obtain ⟨steps, rfl⟩ : ∃ k, steps = k + 1 := ⟨steps - 1, by omega⟩
    exact readMembers_last hx (by omega)

theorem writtenMembers_cons {name : String} {x : Json} {ms : List (String × Json)}
    {cs tail : List Char} (hx : Written x cs) (hms : WrittenMembers ms tail) :
    WrittenMembers ((name, x) :: ms)
      (',' :: ' ' :: (writeText name ++ ':' :: ' ' :: (cs ++ tail))) where
  writeMembers := by
    rw [Json.writeMembers, hx.writeChars, hms.writeMembers]
    simp [bind, Except.bind, pure, Except.pure]
  printable := by
    have hmore := List.forall_mem_append.2 ⟨hx.printable, hms.printable⟩
    rw [List.forall_mem_cons, List.forall_mem_cons]
    exact ⟨by decide, by decide, printable_member hmore⟩
  readMembers other {y ds} steps rest hy hsteps := by
    simp only [List.length_append, List.length_cons] at hsteps
    obtain ⟨steps, rfl⟩ : ∃ k, steps = k + 1 := ⟨steps - 1, by omega⟩
    have hlater := hms.readMembers name steps rest hx (by rw [List.length_append]; omega)
    simp only [List.cons_append, List.append_assoc]
    exact readMembers_more hy (by omega) hlater

theorem exists_writtenMembers {ms : List (String × Json)}
    (h : ∀ m ∈ ms, ∃ cs, Written m.2 cs) : ∃ tail, WrittenMembers ms tail := by
  induction ms with
  | nil => exact ⟨_, writtenMembers_nil⟩
  | cons m ms ih =>
      obtain ⟨hx, hms⟩ := List.forall_mem_cons.1 h
      obtain ⟨cs, hx⟩ := hx
      obtain ⟨tail, hms⟩ := ih hms
      exact ⟨_, writtenMembers_cons hx hms⟩

theorem written_emptyObject : Written (.object []) ['\x7b', '\x7d'] :=
  written_of_step (by rw [Json.writeChars]) (printable_of_all (by decide))
    ⟨'\x7b', _, rfl, by decide, by decide⟩ fun _ _ _ _ => rfl

theorem written_object {name : String} {x : Json} {ms : List (String × Json)}
    {cs tail : List Char} (hnames : (Assoc.names ((name, x) :: ms)).Nodup) (hx : Written x cs)
    (hms : WrittenMembers ms tail) :
    Written (.object ((name, x) :: ms))
      ('\x7b' :: (writeText name ++ ':' :: ' ' :: (cs ++ tail))) := by
  have hmore := List.forall_mem_append.2 ⟨hx.printable, hms.printable⟩
  apply written_of_step _ (List.forall_mem_cons.2 ⟨by decide, printable_member hmore⟩)
    ⟨'\x7b', _, rfl, by decide, by decide⟩
  · intro steps rest hsteps _
    simp only [List.length_append, List.length_cons] at hsteps
    have hmembers := hms.readMembers name steps rest hx (by rw [List.length_append]; omega)
    simp only [List.cons_append, List.append_assoc]
    rw [Json.readValue, skipBlanks_writeText]
    rw [writeText_append] at hmembers ⊢
    simp only [hmembers, Assoc.ofList_eq_self hnames]
  · rw [Json.writeChars, hx.writeChars, hms.writeMembers]
    simp [bind, Except.bind, pure, Except.pure]

/-! ## All values -/

theorem exists_written {j : Json} (hj : j.Proper) (hreals : j.RealFree) : ∃ cs, Written j cs := by
  induction hj with
  | null => exact ⟨_, written_null⟩
  | bool b =>
      cases b with
      | false => exact ⟨_, written_false⟩
      | true => exact ⟨_, written_true⟩
  | int h => exact ⟨_, written_int h⟩
  | real x => cases hreals
  | text s => exact ⟨_, written_text s⟩
  | @list xs _ ih =>
      have hitems : ∀ x ∈ xs, ∃ cs, Written x cs := by
        cases hreals with
        | list hxs => exact fun x hx => ih x hx (hxs x hx)
      cases xs with
      | nil => exact ⟨_, written_emptyList⟩
      | cons x xs =>
          obtain ⟨⟨cs, hx⟩, hxs⟩ := List.forall_mem_cons.1 hitems
          obtain ⟨tail, hxs⟩ := exists_writtenItems hxs
          exact ⟨_, written_list hx hxs⟩
  | @object ms hnames _ ih =>
      have hmembers : ∀ m ∈ ms, ∃ cs, Written m.2 cs := by
        cases hreals with
        | object hms => exact fun m hm => ih m hm (hms m hm)
      cases ms with
      | nil => exact ⟨_, written_emptyObject⟩
      | cons m ms =>
          obtain ⟨⟨cs, hx⟩, hms⟩ := List.forall_mem_cons.1 hmembers
          obtain ⟨tail, hms⟩ := exists_writtenMembers hms
          exact ⟨_, written_object hnames hx hms⟩

theorem Opens.skipMark {cs : List Char} (h : Opens cs) (hprintable : ∀ c ∈ cs, Printable c) :
    skipMark cs = cs := by
  obtain ⟨c, cs, rfl, -⟩ := h
  have hc : Printable c := hprintable c (by simp)
  rw [Json.skipMark]
  all_goals
    intro r hr
    rw [(List.cons.inj hr).1] at hc
    exact absurd hc (by decide)

theorem Written.read_eq {j : Json} {cs : List Char} (h : Written j cs) : read cs = .ok j := by
  have hskip := h.opens.skipBlanks []
  have hvalue := h.readValue (2 * cs.length + 2) [] (by omega) closes_nil
  rw [List.append_nil] at hskip hvalue
  rw [Json.read, h.opens.skipMark h.printable, hskip, hvalue]
  rfl

theorem read_overlong {n : Int} (h : 10 ^ Numeral.digitLimit ≤ n.natAbs) :
    read (Numeral.write n) = .error (.tooManyDigits (Numeral.digits n.natAbs).length) := by
  have hskip := (opens_write n).skipBlanks []
  have hvalue := readValue_write n (2 * (Numeral.write n).length + 1) []
  rw [readNumber_overlong h closes_nil] at hvalue
  rw [List.append_nil] at hskip hvalue
  rw [Json.read, (opens_write n).skipMark (printable_write n), hskip, hvalue]
  rfl

end Json

end Stomp
