import PathEdit.Proofs.Regex.Reader.Escape
import PathEdit.Regex.Reader.Class

/-! Classes are read in the same way, whatever closes the part of an expression that they end. -/
namespace PathEdit.Regex.Reader

variable (flags : Flags) {text rest post : List Char}

/-! Items. -/

theorem classAtom_other {c : Char} (other : c ≠ '\\') (text : List Char) :
    classAtom flags (c :: text) = some (.literal c, text) := by
  unfold classAtom
  split <;> simp_all

theorem local_classAtom_behind (c : Char) : Local fun text => classAtom flags (c :: text) := by
  by_cases bar : c = '\\'
  · subst bar
    exact (local_escape flags).congr fun _ => rfl
  · exact (Local.pure (.literal c)).congr (classAtom_other flags bar)

theorem local_classAtom : Local (classAtom flags) :=
  .cons (local_classAtom_behind flags) (fun _ _ => rfl) rfl

/-- What stands alone in a class. -/
def single? : Atom → Option CharSet
  | .literal c => (classLiteral? flags (.literal c)).map CharSet.single
  | .set set => some set
  | .look _ => none

/-- The end of a range behind its hyphen. -/
def rangeEnd (first : Atom) : Reading CharSet := fun text =>
  (classAtom flags text).bind fun found =>
    (classLiteral? flags first).bind fun low =>
      (classLiteral? flags found.1).bind fun high =>
        if low ≤ high then some (.range low.toNat high.toNat, found.2) else none

theorem local_rangeEnd (first : Atom) : Local (rangeEnd flags first) :=
  (local_classAtom flags).bind fun last => .guard (classLiteral? flags first) fun low =>
    .guard (classLiteral? flags last) fun high =>
      .ite (low ≤ high) (.pure (CharSet.range low.toNat high.toNat)) .none

/-- What follows the first character or escape of an item, when blanks are skipped. -/
def afterFirst (first : Atom) (text : List Char) : Option (CharSet × List Char) :=
  match text with
  | [] => none
  | '-' :: behind =>
    match flags.skip behind with
    | [] => none
    | ']' :: _ | '-' :: _ => (single? flags first).map (·, text)
    | behind => rangeEnd flags first behind
  | _ => (single? flags first).map (·, text)

theorem classItem_eq (text : List Char) : classItem flags text =
    (classAtom flags text).bind fun found => afterFirst flags found.1 (flags.skip found.2) := by
  rw [classItem]
  congr 1
  funext found
  obtain ⟨first, rest⟩ := found
  dsimp only
  generalize flags.skip rest = text
  unfold afterFirst
  split
  · rfl
  · cases first <;> simp only [single?, Option.map_map, Option.map_some, Option.map_none] <;> rfl
  · cases first <;> simp only [single?, Option.map_map] <;> rfl

theorem afterFirst_hyphen {first : Atom} {c : Char} {more : List Char}
    (behind : flags.skip text = c :: more) : afterFirst flags first ('-' :: text) =
      if c = ']' ∨ c = '-' then (single? flags first).map (·, '-' :: text)
      else rangeEnd flags first (flags.skip text) := by
  simp only [afterFirst, behind]
  split <;> simp_all

theorem afterFirst_other {first : Atom} (nonempty : text ≠ []) (other : text.head? ≠ some '-') :
    afterFirst flags first text = (single? flags first).map (·, text) := by
  unfold afterFirst
  split <;> simp_all

theorem local_afterFirst (first : Atom) : Local (afterFirst flags first) := by
  refine ⟨fun {text set rest} found => ?_⟩
  cases text with
  | nil => cases found
  | cons c text =>
    by_cases hyphen : c = '-'
    · subst hyphen
      cases behind : flags.skip text with
      | nil => simp [afterFirst, behind] at found
      | cons c more =>
        let range : Reading CharSet := uncons fun _ text =>
          rangeEnd flags first (flags.skip text)
        let next (c : Char) : Reading CharSet := fun text =>
          if c = ']' ∨ c = '-' then (single? flags first).map (·, text) else range text
        have local_range : Local range :=
          .uncons fun _ => (local_rangeEnd flags first).skip flags
        have reads (c : Char) : Local (next c) := .ite _ (.of_option _) local_range
        exact @Local.lookahead _ _ text rest set next flags ['-'] c more (reads c) behind
          (fun behind => afterFirst_hyphen flags behind) found
    · have other (text : List Char) :
          afterFirst flags first (c :: text) = (single? flags first).map (·, c :: text) :=
        afterFirst_other flags (List.cons_ne_nil c text) (by simpa using hyphen)
      rw [other] at found
      obtain ⟨set, alone, same⟩ := Option.map_eq_some_iff.mp found
      obtain ⟨rfl, rfl⟩ := Prod.mk.inj same
      exact ⟨List.suffix_refl _, .inl fun _ => by simp [other, alone]⟩

theorem local_classItem_behind (c : Char) : Local fun text => classItem flags (c :: text) :=
  ((local_classAtom_behind flags c).bind fun first => (local_afterFirst flags first).skip flags).congr
    fun _ => classItem_eq flags _

/-! Named ASCII classes. -/

/-- A named class whose name does not begin with a circumflex any more. -/
def namedClass (negated : Bool) (text : List Char) : Option (CharSet × List Char) :=
  match text.dropWhile (· != ':') with
  | ':' :: ']' :: behind => do
    let set ← CharSet.posix? (String.ofList (text.takeWhile (· != ':')))
    return (.negateIf negated (flags.fold set), behind)
  | _ => none

theorem bracket_notMem_of_posix? {name : String} {set : CharSet}
    (named : CharSet.posix? name = some set) : ']' ∉ name.toList := by
  unfold CharSet.posix? at named
  split at named <;> first | decide | cases named

/-- Behind the end of a class its text does not matter to a name. -/
theorem namedClass_append (negated : Bool) (bracket : ']' ∈ text) (closing : Closing post) :
    namedClass flags negated (text ++ post) =
      (namedClass flags negated text).map fun found => (found.1, found.2 ++ post) := by
  by_cases colon : ':' ∈ text
  · obtain ⟨name, behind, rfl, absent⟩ := List.eq_append_cons_of_mem colon
    have cut (behind : List Char) :
        (name ++ ':' :: behind).takeWhile (· != ':') = name ∧
          (name ++ ':' :: behind).dropWhile (· != ':') = ':' :: behind := by
      have plain : ∀ c ∈ name, (c != ':') = true := fun c present =>
        bne_iff_ne.mpr fun same => absent (same ▸ present)
      constructor
      · simp [List.takeWhile_append_of_pos plain]
      · simp [List.dropWhile_append_of_pos plain]
    simp only [namedClass, List.append_assoc, List.cons_append, cut]
    cases behind with
    | nil => cases closing <;> rfl
    | cons c behind =>
      by_cases bracket : c = ']'
      · subst bracket
        cases CharSet.posix? (String.ofList name) <;> rfl
      · split <;> split <;> simp_all
  · have plain : ∀ c ∈ text, (c != ':') = true := fun c present =>
      bne_iff_ne.mpr fun same => colon (same ▸ present)
    have alone : namedClass flags negated text = none := by
      have whole := @List.dropWhile_append_of_pos _ (· != ':') text [] plain
      rw [List.append_nil] at whole
      rw [namedClass, whole]
      rfl
    have unnamed (post : List Char) :
        CharSet.posix? (String.ofList ((text ++ post).takeWhile (· != ':'))) = none := by
      refine Option.eq_none_iff_forall_ne_some.mpr fun set named => ?_
      have absent := bracket_notMem_of_posix? named
      rw [String.toList_ofList, List.takeWhile_append_of_pos plain] at absent
      exact absent (List.mem_append_left _ bracket)
    rw [alone, namedClass, unnamed]
    split <;> rfl

theorem posixClass_colon (text : List Char) : posixClass flags (':' :: text) =
    if text.head? = some '^' then namedClass flags true text.tail
    else namedClass flags false text := by
  cases text with
  | nil => rfl
  | cons c text =>
    by_cases caret : c = '^'
    · subst caret
      rfl
    · simp [posixClass, caret]
      rfl

theorem posixClass_append (bracket : ']' ∈ text) (closing : Closing post) :
    posixClass flags (text ++ post) =
      (posixClass flags text).map fun found => (found.1, found.2 ++ post) := by
  by_cases colon : text.head? = some ':'
  · obtain ⟨text, rfl⟩ := List.head?_eq_some_iff.mp colon
    rw [List.mem_cons, or_iff_right (by decide)] at bracket
    rw [List.cons_append, posixClass_colon, posixClass_colon]
    by_cases caret : text.head? = some '^'
    · obtain ⟨text, rfl⟩ := List.head?_eq_some_iff.mp caret
      rw [List.mem_cons, or_iff_right (by decide)] at bracket
      exact namedClass_append flags true bracket closing
    · rw [if_neg caret, if_neg (closing.head?_append caret (by decide))]
      exact namedClass_append flags false bracket closing
  · have none {text : List Char} (other : text.head? ≠ some ':') : posixClass flags text = none := by
      unfold posixClass
      split
      · exact absurd rfl other
      · rfl
    rw [none colon, none (closing.head?_append colon (by decide))]
    rfl

theorem namedClass_suffix {negated : Bool} {found : CharSet × List Char}
    (named : namedClass flags negated text = some found) : ']' :: found.2 <:+ text := by
  unfold namedClass at named
  split at named
  · rename_i behind colon
    obtain ⟨set, -, same⟩ := Option.bind_eq_some_iff.mp named
    obtain rfl := Option.some.inj same
    have cut := List.dropWhile_suffix (l := text) (· != ':')
    rw [colon] at cut
    exact (List.suffix_cons ':' _).trans cut
  · cases named

theorem posixClass_suffix {found : CharSet × List Char}
    (named : posixClass flags text = some found) : ']' :: found.2 <:+ text := by
  cases text with
  | nil => cases named
  | cons c text =>
    by_cases colon : c = ':'
    · subst colon
      rw [posixClass_colon] at named
      refine .trans ?_ (List.suffix_cons ':' text)
      split at named
      · exact (namedClass_suffix flags named).trans (List.tail_suffix text)
      · exact namedClass_suffix flags named
    · simp [posixClass, colon] at named

/-! Beginnings of classes. -/

theorem local_leadingHyphens :
    Local fun text => some (leadingHyphens flags text.length text) := by
  refine flags.local_longest (· == '-') (fun _ => ⟨.single '-', 0⟩) ?_ ?_ ?_ rfl rfl
  · intro fuel
    cases fuel <;> rfl
  · intro fuel c rest hyphen
    obtain rfl := beq_iff_eq.mp hyphen
    rfl
  · intro fuel c rest other
    unfold leadingHyphens
    split <;> simp_all

/-- The items at the beginning of a class, where a closing bracket stands for itself. -/
def firstItems (negated : Bool) (items : List ClassItem) : Reading (Bool × List ClassItem) :=
  fun text =>
    match items, text with
    | [], ']' :: rest => some ((negated, [⟨.single ']', 0⟩]), flags.skip rest)
    | _, _ => some ((negated, items), text)

theorem local_firstItems (negated : Bool) (items : List ClassItem) :
    Local (firstItems flags negated items) := by
  cases items with
  | nil =>
    exact .peek ']' (by decide) ((Local.pure _).skip flags) (.pure _) (fun _ => rfl) fun absent => by
      unfold firstItems
      split
      · simp at absent
      · rfl
  | cons => exact (Local.pure _).congr fun _ => rfl

/-- The beginning of a class behind its circumflex. -/
def afterCaret (negated : Bool) : Reading (Bool × List ClassItem) := fun text =>
  firstItems flags negated (leadingHyphens flags text.length text).1
    (leadingHyphens flags text.length text).2

theorem local_afterCaret (negated : Bool) : Local (afterCaret flags negated) :=
  ((local_leadingHyphens flags).bind (local_firstItems flags negated)).congr fun _ => rfl

/-- The beginning of a class as a reader. -/
def opened : Reading (Bool × List ClassItem) := fun text =>
  some (((classOpening flags text).1, (classOpening flags text).2.1), (classOpening flags text).2.2)

theorem opened_eq (text : List Char) : opened flags text =
    match flags.skip text with
    | '^' :: rest => afterCaret flags true (flags.skip rest)
    | text => afterCaret flags false text := by
  unfold opened classOpening afterCaret firstItems
  dsimp only
  generalize flags.skip text = text
  split
  · dsimp only
    split <;> simp_all
  · dsimp only
    split <;> simp_all

theorem local_opened : Local (opened flags) := by
  have behind : Local fun text =>
      match text with
      | '^' :: rest => afterCaret flags true (flags.skip rest)
      | text => afterCaret flags false text :=
    .peek '^' (by decide) ((local_afterCaret flags true).skip flags) (local_afterCaret flags false)
      (fun _ => rfl) fun absent => by
        split
        · simp at absent
        · rfl
  exact (behind.skip flags).congr (opened_eq flags)

/-! Bodies of classes. -/

/-- The operation of a doubled character. -/
def operation? : Char → Option (CharSet → CharSet → CharSet)
  | '&' => some .inter
  | '-' => some .diff
  | '~' => some .symmDiff
  | _ => none

section

variable (body : Option Pending → List ClassItem → Reading ClassItem) (pending : Option Pending)
  (items : List ClassItem)

/-- A class body from a class inside of it on. -/
def innerClass : Reading ClassItem := fun text =>
  match posixClass flags text with
  | some found => body pending (⟨found.1, 0⟩ :: items) found.2
  | none =>
    (opened flags text).bind fun start =>
      (body none start.1.2.reverse start.2).bind fun content =>
        body pending (content.1.bracketed flags start.1.1 :: items) content.2

/-- A class body from an item on, which begins with a character that may be doubled. -/
def itemFrom (c : Char) : Reading ClassItem := fun text =>
  (classItem flags (c :: text)).bind fun found => body pending (⟨found.1, 0⟩ :: items) found.2

/-- A class body from a character on. -/
def bodyFrom (c : Char) : Reading ClassItem := fun text =>
  if c = ']' then some (Pending.close flags pending items, text)
  else if c = '[' then innerClass flags body pending items text
  else
    match operation? c with
    | none => itemFrom flags body pending items c text
    | some operation =>
      if text.head? = some c then
        body (some ⟨operation, Pending.close flags pending items⟩) [] text.tail
      else itemFrom flags body pending items c text

end

theorem classBody_succ (fuel : Nat) (pending : Option Pending) (items : List ClassItem)
    (text : List Char) : classBody flags (fuel + 1) pending items text =
      match flags.skip text with
      | [] => none
      | c :: rest => bodyFrom flags (classBody flags fuel) pending items c rest := by
  rw [classBody]
  generalize flags.skip text = text
  dsimp only
  split
  · rfl
  · rfl
  · change _ = innerClass flags (classBody flags fuel) pending items _
    unfold innerClass
    cases posixClass flags _ <;> rfl
  · rfl
  · rfl
  · rfl
  · rename_i nonempty close inner both left differ
    obtain ⟨c, rest, rfl⟩ := List.exists_cons_of_ne_nil nonempty
    have closes : c ≠ ']' := by
      rintro rfl
      exact close rest rfl
    have opens : c ≠ '[' := by
      rintro rfl
      exact inner rest rfl
    have single {operation : CharSet → CharSet → CharSet} (known : operation? c = some operation) :
        rest.head? ≠ some c := by
      intro doubled
      obtain ⟨rest, rfl⟩ := List.head?_eq_some_iff.mp doubled
      unfold operation? at known
      split at known
      · exact both rest rfl
      · exact left rest rfl
      · exact differ rest rfl
      · cases known
    change _ = bodyFrom flags (classBody flags fuel) pending items c rest
    rw [bodyFrom, if_neg closes, if_neg opens]
    cases known : operation? c with
    | none => rfl
    | some operation =>
      dsimp only
      rw [if_neg (single known)]
      rfl

section

variable {body : Option Pending → List ClassItem → Reading ClassItem} {pending : Option Pending}
  {items : List ClassItem}

theorem local_itemFrom (reads : ∀ pending items, Local (body pending items)) (c : Char) :
    Local (itemFrom flags body pending items c) :=
  (local_classItem_behind flags c).bind fun set => reads pending (⟨set, 0⟩ :: items)

/-- A class ends with a bracket. -/
theorem bracket_mem_of_innerClass
    (closes : ∀ {pending items text found}, body pending items text = some found → ']' ∈ text)
    {found : ClassItem × List Char} (inner : innerClass flags body pending items text = some found) :
    ']' ∈ text := by
  unfold innerClass at inner
  split at inner
  · rename_i posix
    exact (posixClass_suffix flags posix).subset List.mem_cons_self
  · obtain ⟨start, front, inner⟩ := Option.bind_eq_some_iff.mp inner
    obtain ⟨content, inner, -⟩ := Option.bind_eq_some_iff.mp inner
    exact ((local_opened flags).read front).suffix.subset (closes inner)

theorem local_innerClass (reads : ∀ pending items, Local (body pending items))
    (closes : ∀ {pending items text found}, body pending items text = some found → ']' ∈ text) :
    Local (innerClass flags body pending items) := by
  let behind (posix : Option (CharSet × List Char)) : Reading ClassItem := fun text =>
    match posix with
    | some found => body pending (⟨found.1, 0⟩ :: items) found.2
    | none =>
      (opened flags text).bind fun start =>
        (body none start.1.2.reverse start.2).bind fun content =>
          body pending (content.1.bracketed flags start.1.1 :: items) content.2
  have local_none : Local (behind none) :=
    (local_opened flags).bind fun start => (reads none start.2.reverse).bind fun content =>
      reads pending (content.bracketed flags start.1 :: items)
  refine ⟨fun {text item rest} found => ?_⟩
  have bracket := bracket_mem_of_innerClass flags closes found
  have longer {post : List Char} (closing : Closing post) :
      innerClass flags body pending items (text ++ post) =
        behind ((posixClass flags text).map fun found => (found.1, found.2 ++ post)) (text ++ post) := by
    rw [← posixClass_append flags bracket closing]
    rfl
  change behind (posixClass flags text) text = _ at found
  cases posix : posixClass flags text with
  | some named =>
    rw [posix] at found longer
    have cut := posixClass_suffix flags posix
    obtain ⟨suffix, stands⟩ := (reads _ _).read found
    refine ⟨suffix.trans ((List.suffix_cons ']' _).trans cut), stands.imp ?_ (And.imp_right ?_)⟩
    · exact fun all _ closing => (longer closing).trans (all closing)
    · exact (longer closing_groupEnd).trans
  | none =>
    rw [posix] at found longer
    obtain ⟨suffix, stands⟩ := local_none.read found
    refine ⟨suffix, stands.imp ?_ (And.imp_right ?_)⟩
    · exact fun all _ closing => (longer closing).trans (all closing)
    · exact (longer closing_groupEnd).trans

theorem local_bodyFrom (reads : ∀ pending items, Local (body pending items))
    (closes : ∀ {pending items text found}, body pending items text = some found → ']' ∈ text)
    (c : Char) : Local (bodyFrom flags body pending items c) := by
  have item : Local (itemFrom flags body pending items c) := local_itemFrom flags reads c
  refine .ite _ (.pure _) (.ite _ (local_innerClass flags reads closes) ?_)
  cases known : operation? c with
  | none => exact item
  | some operation =>
    have inside : c ∉ [')', '|'] := by
      intro mark
      obtain rfl | rfl : c = ')' ∨ c = '|' := by simpa using mark
      all_goals cases known
    exact .peek c inside (reads _ _) item (fun _ => if_pos rfl) fun other => if_neg other

theorem bracket_mem_of_bodyFrom
    (closes : ∀ {pending items text found}, body pending items text = some found → ']' ∈ text)
    {c : Char} {found : ClassItem × List Char}
    (read : bodyFrom flags body pending items c text = some found) : ']' ∈ c :: text := by
  have item (read : itemFrom flags body pending items c text = some found) : ']' ∈ text := by
    obtain ⟨set, front, behind⟩ := Option.bind_eq_some_iff.mp read
    exact ((local_classItem_behind flags c).read front).suffix.subset (closes behind)
  unfold bodyFrom at read
  split at read
  · exact List.mem_cons.mpr (.inl (Eq.symm ‹_›))
  · refine List.mem_cons_of_mem _ ?_
    split at read
    · exact bracket_mem_of_innerClass flags closes read
    · split at read
      · exact item read
      · split at read
        · exact List.mem_of_mem_tail (closes read)
        · exact item read

/-- A body that reads more is part of a class body that reads more. -/
theorem bodyFrom_mono {body' : Option Pending → List ClassItem → Reading ClassItem}
    (more : ∀ {pending items text found}, body pending items text = some found →
      body' pending items text = some found) {c : Char} {found : ClassItem × List Char}
    (read : bodyFrom flags body pending items c text = some found) :
    bodyFrom flags body' pending items c text = some found := by
  have item (read : itemFrom flags body pending items c text = some found) :
      itemFrom flags body' pending items c text = some found := by
    obtain ⟨set, front, behind⟩ := Option.bind_eq_some_iff.mp read
    exact Option.bind_eq_some_iff.mpr ⟨set, front, more behind⟩
  have inner (read : innerClass flags body pending items text = some found) :
      innerClass flags body' pending items text = some found := by
    unfold innerClass at read ⊢
    cases posix : posixClass flags text with
    | some named =>
      rw [posix] at read
      exact more read
    | none =>
      rw [posix] at read
      obtain ⟨start, front, read⟩ := Option.bind_eq_some_iff.mp read
      obtain ⟨content, content_read, read⟩ := Option.bind_eq_some_iff.mp read
      exact Option.bind_eq_some_iff.mpr
        ⟨start, front, Option.bind_eq_some_iff.mpr ⟨content, more content_read, more read⟩⟩
  unfold bodyFrom at read ⊢
  split at read
  · rwa [if_pos ‹_›]
  · rw [if_neg ‹_›]
    split at read
    · rw [if_pos ‹_›]
      exact inner read
    · rw [if_neg ‹_›]
      cases known : operation? c with
      | none =>
        rw [known] at read
        exact item read
      | some operation =>
        rw [known] at read
        dsimp only at read ⊢
        split at read
        · rw [if_pos ‹_›]
          exact more read
        · rw [if_neg ‹_›]
          exact item read

end

theorem local_classBody (fuel : Nat) :
    (∀ pending items, Local (classBody flags fuel pending items)) ∧
      ∀ {pending items text found}, classBody flags fuel pending items text = some found →
        ']' ∈ text := by
  induction fuel with
  | zero => exact ⟨fun _ _ => .congr .none fun _ => rfl, nofun⟩
  | succ fuel ih =>
    obtain ⟨reads, closes⟩ := ih
    constructor
    · intro pending items
      let next : Reading ClassItem
        | [] => none
        | c :: rest => bodyFrom flags (classBody flags fuel) pending items c rest
      have local_next : Local next :=
        .cons (local_bodyFrom flags reads closes) (fun _ _ => rfl) rfl
      exact (local_next.skip flags).congr (classBody_succ flags fuel pending items)
    · intro pending items text found read
      rw [classBody_succ] at read
      split at read
      · cases read
      · rename_i skipped
        have suffix := (flags.local_skipping.read (congrArg (fun t => some ((), t)) skipped)).suffix
        exact suffix.subset (bracket_mem_of_bodyFrom flags closes read)

theorem classBody_more {fuel : Nat} {pending : Option Pending} {items : List ClassItem}
    {found : ClassItem × List Char}
    (read : classBody flags fuel pending items text = some found) :
    classBody flags (fuel + 1) pending items text = some found := by
  induction fuel generalizing pending items text found with
  | zero => cases read
  | succ fuel ih =>
    rw [classBody_succ] at read ⊢
    split at read
    · cases read
    · exact bodyFrom_mono flags ih read

/-- Classes are read in the same way whatever closes the part that they end. -/
theorem local_bracketed : Local (bracketed flags) := by
  have body (start : Bool × List ClassItem) : Local fun text =>
      (classBody flags (text.length + 1) none start.2.reverse text).bind fun found =>
        if flags.admits (found.1.bracketed flags start.1).set then
          some (found.1.bracketed flags start.1, found.2)
        else none := by
    have enough : Local fun text => classBody flags (text.length + 1) none start.2.reverse text :=
      .fuelled (fun fuel => (local_classBody flags fuel).1 none start.2.reverse)
        (classBody_more flags) (by simp)
    exact enough.bind fun content =>
      .ite (flags.admits (content.bracketed flags start.1).set = true)
        (.pure (content.bracketed flags start.1)) .none
  exact ((local_opened flags).bind body).congr fun _ => rfl

end PathEdit.Regex.Reader
