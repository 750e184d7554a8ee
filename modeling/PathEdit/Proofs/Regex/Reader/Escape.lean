import PathEdit.Proofs.Regex.Reader.Local
import PathEdit.Regex.Reader.Escape

/-! Escapes are read in the same way, whatever closes the part of an expression that they end. -/
namespace PathEdit.Regex.Reader

variable (flags : Flags)

theorem local_hexDigits (digits value : Nat) : Local (hexDigits flags digits value) := by
  induction digits generalizing value with
  | zero => exact (Local.pure value).congr fun _ => rfl
  | succ digits ih =>
    exact .cons (fun c => .guard (hexValue? c) fun digit => (ih (16 * value + digit)).skip flags)
      (fun _ _ => rfl) rfl

theorem local_bracedHex (fuel : Nat) (value : Option Nat) : Local (bracedHex flags fuel value) := by
  induction fuel generalizing value with
  | zero => exact Local.none
  | succ fuel ih =>
    exact .cons (fun c => .ite (c == '\x7d') ((Local.of_option value).skip flags)
      (.guard (hexValue? c) fun digit => (ih (some (16 * value.getD 0 + digit))).skip flags))
      (fun _ _ => rfl) rfl

theorem bracedHex_succ {fuel : Nat} {value : Option Nat} {text : List Char} {found : Nat × List Char}
    (read : bracedHex flags fuel value text = some found) :
    bracedHex flags (fuel + 1) value text = some found := by
  induction fuel generalizing value text with
  | zero => cases read
  | succ fuel ih =>
    cases text with
    | nil => cases read
    | cons c rest =>
      rw [bracedHex] at read ⊢
      split at read
      · rwa [if_pos ‹_›]
      · rw [if_neg ‹_›]
        obtain ⟨digit, value, read⟩ := Option.bind_eq_some_iff.mp read
        exact Option.bind_eq_some_iff.mpr ⟨digit, value, ih read⟩

/-- The character of a hexadecimal escape, behind its letter and blanks. -/
def hexScalar (digits : Nat) : Reading Atom
  | '\x7b' :: rest =>
    (bracedHex flags rest.length none (flags.skip rest)).bind fun found =>
      (scalar? found.1).bind fun c => some (Atom.literal c, found.2)
  | text =>
    (hexDigits flags digits 0 text).bind fun found =>
      (scalar? found.1).bind fun c => some (Atom.literal c, found.2)

theorem local_hexEscape (digits : Nat) : Local (hexEscape flags digits) := by
  have braced : Local fun text => bracedHex flags text.length none (flags.skip text) :=
    .fuelled (fun fuel => (local_bracedHex flags fuel none).skip flags) (bracedHex_succ flags)
      (by simp)
  have scalar (code : Nat) : Local fun text => (scalar? code).bind fun c => some (Atom.literal c, text) :=
    .guard (scalar? code) fun c => .pure (Atom.literal c)
  have code : Local (hexScalar flags digits) :=
    .peek '{' (by decide) (braced.bind scalar) ((local_hexDigits flags digits 0).bind scalar)
      (fun _ => rfl) fun absent => by
        unfold hexScalar
        split
        · simp at absent
        · rfl
  exact (code.skip flags).congr fun _ => rfl

theorem local_bracedName (fuel : Nat) : Local (bracedName flags fuel) := by
  induction fuel with
  | zero => exact Local.none
  | succ fuel ih =>
    exact .cons (fun c => .ite (c == '\x7d') (.pure []) ((ih.skip flags).map (c :: ·)))
      (fun c rest => by
        simp only [bracedName]
        split
        · rfl
        · cases bracedName flags fuel (flags.skip rest) <;> rfl) rfl

theorem bracedName_succ {fuel : Nat} {text : List Char} {found : List Char × List Char}
    (read : bracedName flags fuel text = some found) :
    bracedName flags (fuel + 1) text = some found := by
  induction fuel generalizing text found with
  | zero => cases read
  | succ fuel ih =>
    cases text with
    | nil => cases read
    | cons c rest =>
      rw [bracedName] at read ⊢
      split at read
      · rwa [if_pos ‹_›]
      · rw [if_neg ‹_›]
        obtain ⟨name, inner, read⟩ := Option.bind_eq_some_iff.mp read
        exact Option.bind_eq_some_iff.mpr ⟨name, ih inner, read⟩

/-- The set of a property, which is one of Unicode. -/
def propertySet (negated : Bool) (set : CharSet) : Reading Atom := fun text =>
  if flags.unicode then some (.set (.negateIf negated (flags.fold set)), text) else none

/-- A Unicode property, behind its letter and blanks. -/
def namedProperty (negated : Bool) : Reading Atom
  | [] => none
  | '\x7b' :: rest =>
    (bracedName flags rest.length (flags.skip rest)).bind fun found =>
      ((namedSet? found.1).map (·, found.2)).bind fun found =>
        propertySet flags negated found.1 found.2
  | '\\' :: _ => none
  | c :: rest =>
    ((CharSet.property? [c]).map (·, flags.skip rest)).bind fun found =>
      propertySet flags negated found.1 found.2

theorem local_propertyEscape (negated : Bool) : Local (propertyEscape flags negated) := by
  have allowed (set : CharSet) : Local (propertySet flags negated set) := .ite _ (.pure _) .none
  have braced : Local fun text => bracedName flags text.length (flags.skip text) :=
    .fuelled (fun fuel => (local_bracedName flags fuel).skip flags) (bracedName_succ flags) (by simp)
  have named := braced.bind fun name => (Local.of_option (namedSet? name)).bind allowed
  have single (c : Char) :=
    ((Local.of_option (CharSet.property? [c])).bind allowed).skip flags
  have property : Local (namedProperty flags negated) := by
    refine .cons (fun c => .ite (c = '{') named (.ite (c = '\\') .none (single c)))
      (fun c rest => ?_) rfl
    by_cases brace : c = '{'
    · rw [if_pos brace]
      subst brace
      rfl
    · rw [if_neg brace]
      by_cases bar : c = '\\'
      · rw [if_pos bar]
        subst bar
        rfl
      · rw [if_neg bar]
        unfold namedProperty
        split <;> simp_all
  exact (property.skip flags).congr fun _ => rfl

theorem local_bracedWord (fuel : Nat) : Local (bracedWord flags fuel) := by
  induction fuel with
  | zero => exact Local.none
  | succ fuel ih =>
    exact .cons (fun c => .ite (c == '}') (.pure [])
      (.ite (c.isAlpha || c == '-') ((ih.skip flags).bind fun word => .pure (c :: word)) .none))
      (fun _ _ => rfl) rfl

theorem bracedWord_succ {fuel : Nat} {text : List Char} {found : List Char × List Char}
    (read : bracedWord flags fuel text = some found) :
    bracedWord flags (fuel + 1) text = some found := by
  induction fuel generalizing text found with
  | zero => cases read
  | succ fuel ih =>
    cases text with
    | nil => cases read
    | cons c rest =>
      rw [bracedWord] at read ⊢
      split at read
      · rwa [if_pos ‹_›]
      · rw [if_neg ‹_›]
        split at read
        · rw [if_pos ‹_›]
          obtain ⟨word, inner, read⟩ := Option.bind_eq_some_iff.mp read
          exact Option.bind_eq_some_iff.mpr ⟨word, ih inner, read⟩
        · cases read

/-- A side of a word in braces as a reader, which reads nothing where there are no such braces. -/
def boundaryIn : Reading (Option Look) := fun text =>
  (bracedBoundary flags text).map fun
    | .absent => (none, text)
    | .look l rest => (some l, rest)

/-- The side of a word that a word names. -/
def side? (word : List Char) : Option Look :=
  match String.ofList word with
  | "start" => some (.wordStart flags.word)
  | "end" => some (.wordEnd flags.word)
  | "start-half" => some (.wordStartHalf flags.word)
  | "end-half" => some (.wordEndHalf flags.word)
  | _ => none

/-- The side of a word that is named behind an opening brace. -/
def namedSide : Reading Look := fun text =>
  (bracedWord flags text.length (flags.skip text)).bind fun found =>
    (side? flags found.1).map (·, found.2)

theorem local_namedSide : Local (namedSide flags) := by
  have braced : Local fun text => bracedWord flags text.length (flags.skip text) :=
    .fuelled (fun fuel => (local_bracedWord flags fuel).skip flags) (bracedWord_succ flags) (by simp)
  exact braced.filterMap (side? flags)

theorem boundaryIn_braced {text rest : List Char} {c : Char} (behind : flags.skip text = c :: rest) :
    boundaryIn flags ('{' :: text) =
      if c.isAlpha || c == '-' then (namedSide flags text).map fun found => (some found.1, found.2)
      else some (none, '{' :: text) := by
  simp only [boundaryIn, bracedBoundary, behind]
  split
  · simp only [namedSide, behind]
    cases bracedWord flags text.length (c :: rest) with
    | none => rfl
    | some found =>
      obtain ⟨word, rest⟩ := found
      simp only [Option.bind_eq_bind, Option.bind_some, side?]
      generalize String.ofList word = name
      split <;> simp_all
  · rfl

theorem boundaryIn_other {text : List Char} (other : text.head? ≠ some '{') :
    boundaryIn flags text = some (none, text) := by
  unfold boundaryIn bracedBoundary
  split
  · simp at other
  · rfl

theorem local_boundaryIn : Local (boundaryIn flags) := by
  refine ⟨fun {text l rest} found => ?_⟩
  by_cases brace : text.head? = some '{'
  · obtain ⟨text, rfl⟩ := List.head?_eq_some_iff.mp brace
    cases behind : flags.skip text with
    | nil => simp [boundaryIn, bracedBoundary, behind] at found
    | cons c more =>
      let named : Reading (Option Look) := uncons fun _ text =>
        (namedSide flags text).map fun found => (some found.1, found.2)
      let next (c : Char) : Reading (Option Look) := fun text =>
        if c.isAlpha || c == '-' then named text else some (none, text)
      have local_named : Local named := .uncons fun _ => (local_namedSide flags).map some
      have reads (c : Char) : Local (next c) := .ite _ local_named (.pure _)
      exact @Local.lookahead _ _ text rest l next flags ['{'] c more (reads c) behind
        (fun behind => boundaryIn_braced flags behind) found
  · rw [boundaryIn_other flags brace] at found
    obtain ⟨rfl, rfl⟩ := Prod.mk.inj (Option.some.inj found)
    exact ⟨List.suffix_refl _, .inl fun closing =>
      boundaryIn_other flags (closing.head?_append brace (by decide))⟩

theorem escape_boundary (text : List Char) : escape flags ('b' :: text) =
    (boundaryIn flags text).map fun found =>
      (.look (found.1.getD (.wordBoundary flags.word)), found.2) := by
  simp only [escape, boundaryIn]
  cases bracedBoundary flags text with
  | none => rfl
  | some found => cases found <;> rfl

theorem local_shorthand (set : CharSet) (negated : Bool) : Local fun text =>
    if negated && !flags.unicode then none else some (Atom.set (.negateIf negated set), text) :=
  .ite _ .none (.pure _)

theorem local_escape : Local (escape flags) := by
  have behind (c : Char) : Local fun text => escape flags (c :: text) := by
    refine ⟨fun {text atom rest} found => ?_⟩
    unfold escape at found
    dsimp only at found
    split at found
    · exact (local_hexEscape flags 2).read found
    · exact (local_hexEscape flags 4).read found
    · exact (local_hexEscape flags 8).read found
    · exact (local_propertyEscape flags false).read found
    · exact (local_propertyEscape flags true).read found
    · exact (local_shorthand flags flags.digit false).read found
    · exact (local_shorthand flags flags.digit true).read found
    · exact (local_shorthand flags flags.blank false).read found
    · exact (local_shorthand flags flags.blank true).read found
    · exact (local_shorthand flags flags.word false).read found
    · exact (local_shorthand flags flags.word true).read found
    iterate 8 exact (Local.pure _).read found
    · have boundary := ((local_boundaryIn flags).map fun side? : Option Look =>
        Atom.look (side?.getD (.wordBoundary flags.word))).congr (escape_boundary flags)
      exact boundary.read (by simpa [escape] using found)
    iterate 3 exact (Local.pure _).read found
    · have literal (rest : List Char) : escape flags (c :: rest) =
          if isEscapable c then some (.literal c, rest) else none := by
        unfold escape
        dsimp only
        split <;> first | contradiction | rfl
      have plain : Local fun text => if isEscapable c then some (Atom.literal c, text) else none :=
        .ite _ (.pure _) .none
      exact (plain.congr literal).read (literal text ▸ found)
  exact .cons behind (fun _ _ => rfl) rfl

end PathEdit.Regex.Reader
