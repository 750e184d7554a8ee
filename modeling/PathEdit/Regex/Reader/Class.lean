import PathEdit.Regex.Reader.Escape

/-! Bracketed classes of regular expressions: literals, ranges, escapes, named ASCII classes,
nested classes and set operations. -/
namespace PathEdit.Regex.Reader

/-- A set as it was read, with the depth to which classes, unions and operations are nested in
it. -/
structure ClassItem where
  set : CharSet
  depth : Nat

/-- A set operation whose left side has been read. -/
structure Pending where
  operation : CharSet → CharSet → CharSet
  left : ClassItem

/-- All items of one level together. -/
def ClassItem.union (items : List ClassItem) : ClassItem :=
  let inner := (items.map ClassItem.depth).foldl max 0
  ⟨.unions (items.map ClassItem.set), if items.length < 2 then inner else inner + 1⟩

/-- All that was read at one level, with the operation in front of the last union. -/
def Pending.close (flags : Flags) (pending : Option Pending) (items : List ClassItem) :
    ClassItem :=
  let item := ClassItem.union items.reverse
  match pending with
  | none => item
  | some p =>
    ⟨p.operation (flags.fold p.left.set) (flags.fold item.set), max p.left.depth item.depth + 1⟩

/-- A named ASCII class, read behind its opening bracket. -/
def posixClass (flags : Flags) (text : List Char) : Option (CharSet × List Char) :=
  match text with
  | ':' :: rest =>
    let (negated, rest) :=
      match rest with
      | '^' :: rest => (true, rest)
      | rest => (false, rest)
    match rest.dropWhile (· != ':') with
    | ':' :: ']' :: behind => do
      let set ← CharSet.posix? (String.ofList (rest.takeWhile (· != ':')))
      return (.negateIf negated (flags.fold set), behind)
    | _ => none
  | _ => none

/-- A character or escape in a class. -/
def classAtom (flags : Flags) : List Char → Option (Atom × List Char)
  | [] => none
  | '\\' :: rest => escape flags rest
  | c :: rest => some (.literal c, rest)

/-- Without Unicode a class names bytes, of which only the ASCII ones can be written. -/
def classLiteral? (flags : Flags) : Atom → Option Char
  | .literal c => if flags.unicode || c.toNat < 0x80 then some c else none
  | _ => none

/-- A range, or a single character or escape. -/
def classItem (flags : Flags) (text : List Char) : Option (CharSet × List Char) := do
  let (first, rest) ← classAtom flags text
  let alone : Option (CharSet × List Char) :=
    match first with
    | .literal _ => (classLiteral? flags first).map fun c => (.single c, flags.skip rest)
    | .set set => some (set, flags.skip rest)
    | .look _ => none
  match flags.skip rest with
  | [] => none
  | '-' :: behind =>
    match flags.skip behind with
    | [] => none
    | ']' :: _ | '-' :: _ => alone
    | text => do
      let (last, rest) ← classAtom flags text
      let low ← classLiteral? flags first
      let high ← classLiteral? flags last
      if low ≤ high then some (.range low.toNat high.toNat, rest) else none
  | _ => alone

/-- Hyphens at the beginning of a class stand for themselves. -/
def leadingHyphens (flags : Flags) : Nat → List Char → List ClassItem × List Char
  | 0, text => ([], text)
  | fuel + 1, text =>
    match text with
    | '-' :: rest =>
      let (items, rest) := leadingHyphens flags fuel (flags.skip rest)
      (⟨.single '-', 0⟩ :: items, rest)
    | _ => ([], text)

/-- The beginning of a class, behind its bracket: whether it is negated, and the characters that
stand for themselves only there. -/
def classOpening (flags : Flags) (text : List Char) : Bool × List ClassItem × List Char :=
  let text := flags.skip text
  let (negated, text) :=
    match text with
    | '^' :: rest => (true, flags.skip rest)
    | _ => (false, text)
  let (items, text) := leadingHyphens flags text.length text
  match items, text with
  | [], ']' :: rest => (negated, [⟨.single ']', 0⟩], flags.skip rest)
  | _, _ => (negated, items, text)

/-- A class of what its brackets hold. -/
def ClassItem.bracketed (flags : Flags) (negated : Bool) (content : ClassItem) : ClassItem :=
  ⟨.negateIf negated (flags.fold content.set), content.depth + 1⟩

/-- The rest of a class up to its closing bracket. The fuel is spent at one per character at
least. -/
def classBody (flags : Flags) :
    Nat → Option Pending → List ClassItem → List Char → Option (ClassItem × List Char)
  | 0, _, _, _ => none
  | fuel + 1, pending, items, text =>
    let operator (operation : CharSet → CharSet → CharSet) (rest : List Char) :=
      classBody flags fuel (some ⟨operation, Pending.close flags pending items⟩) [] rest
    match flags.skip text with
    | [] => none
    | ']' :: rest => some (Pending.close flags pending items, rest)
    | '[' :: rest =>
      match posixClass flags rest with
      | some (set, rest) => classBody flags fuel pending (⟨set, 0⟩ :: items) rest
      | none => do
        let (negated, inner, rest) := classOpening flags rest
        let (content, rest) ← classBody flags fuel none inner.reverse rest
        classBody flags fuel pending (content.bracketed flags negated :: items) rest
    | '&' :: '&' :: rest => operator .inter rest
    | '-' :: '-' :: rest => operator .diff rest
    | '~' :: '~' :: rest => operator .symmDiff rest
    | text => do
      let (set, rest) ← classItem flags text
      classBody flags fuel pending (⟨set, 0⟩ :: items) rest

/-- A class, behind its opening bracket. -/
def bracketed (flags : Flags) (text : List Char) : Option (ClassItem × List Char) := do
  let (negated, items, rest) := classOpening flags text
  let (content, rest) ← classBody flags (rest.length + 1) none items.reverse rest
  let item := content.bracketed flags negated
  if flags.admits item.set then some (item, rest) else none

end PathEdit.Regex.Reader
