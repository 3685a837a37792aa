import ImportLint.Text

/-!
# Paths

A path keeps the spelling it was given; its meaning is its list of components.  Repeated and
trailing slashes and inner `.` segments are spelling only: they name no component.

* `Path.components`: the meaning.  `Path.Same` compares by it.
* `Path.parent`, `Path.fileName`, `Path.extension`: taking a path apart.
* `Path.join`, `Path.withSuffix`, `Path.withFileName`: building one.
* `Path.stripBase`: the part of a path below another one.
* `Path.parent_length_lt`: a parent has a shorter spelling, so walks upwards end.
-/

namespace ImportLint

/-- A path as it was spelled. -/
structure Path where
  chars : Text
deriving DecidableEq, Inhabited, Repr

/-- What a segment of a path stands for. -/
inductive Component where
  /-- The `/` that begins an absolute path. -/
  | root
  /-- A `.` at the beginning of a relative path. -/
  | current
  /-- A `..` segment. -/
  | parent
  /-- Any other segment. -/
  | name (chars : Text)
deriving DecidableEq, Inhabited, Repr

namespace Component

/-- How a component is written. -/
def chars : Component → Text
  | .root => ['/']
  | .current => ['.']
  | .parent => ['.', '.']
  | .name n => n

/-- The component that a segment after the first position stands for, if any. -/
def ofSegment : Text → Option Component
  | [] => none
  | ['.'] => none
  | ['.', '.'] => some .parent
  | s => some (.name s)

/-- The rank of a kind of component in the order of paths. -/
def rank : Component → Nat
  | .root => 0
  | .current => 1
  | .parent => 2
  | .name _ => 3

def before (a b : Component) : Bool :=
  match a, b with
  | .name m, .name n => Text.before m n
  | a, b => a.rank < b.rank

end Component

namespace Path

def ofString (s : String) : Path := ⟨s.toList⟩

def toString (p : Path) : String := String.ofList p.chars

instance : ToString Path := ⟨Path.toString⟩

/-- Begins with a slash. -/
def isAbsolute (p : Path) : Bool := p.chars.head? == some '/'

/-! ### Segments -/

/-- The pieces of a spelling between slashes. -/
def segments (cs : Text) : List Text := Text.splitOn '/' cs

/-- The spelling with the given pieces between its slashes. -/
def joinSegments : List Text → Text
  | [] => []
  | [s] => s
  | s :: t :: r => s ++ '/' :: joinSegments (t :: r)

/-- Segments that name nothing. -/
def isIdle (s : Text) : Bool := s == [] || s == ['.']

/-- The segments up to the last one that names something. -/
def dropIdleEnd (ss : List Text) : List Text := (ss.reverse.dropWhile isIdle).reverse

/-- The way a path begins, and the segments after that. -/
inductive Lead where
  /-- With `/`. -/
  | root (body : List Text)
  /-- With a segment `.`. -/
  | current (body : List Text)
  /-- With any other segment. -/
  | plain (body : List Text)

def lead (p : Path) : Lead :=
  match p.chars with
  | '/' :: cs => .root (segments cs)
  | cs =>
    match segments cs with
    | ['.'] :: rest => .current rest
    | ss => .plain ss

/-- The components, from the first to the last. -/
def components (p : Path) : List Component :=
  match p.lead with
  | .root body => .root :: body.filterMap Component.ofSegment
  | .current body => .current :: body.filterMap Component.ofSegment
  | .plain body => body.filterMap Component.ofSegment

/-- Two spellings of one path. -/
def Same (p q : Path) : Prop := p.components = q.components

instance (p q : Path) : Decidable (Same p q) := inferInstanceAs (Decidable (_ = _))

/-- Whether `p` names `base` or something below it. -/
def startsWith (p base : Path) : Bool := base.components.isPrefixOf p.components

/-! ### Taking apart -/

/-- The path without its last component; there is none for `/` and for the empty path. -/
def parent (p : Path) : Option Path :=
  match p.lead with
  | .root body =>
    match dropIdleEnd body with
    | [] => none
    | ss => some ⟨'/' :: joinSegments (dropIdleEnd ss.dropLast)⟩
  | .current body =>
    match dropIdleEnd body with
    | [] => some ⟨[]⟩
    | ss => some ⟨joinSegments (['.'] :: dropIdleEnd ss.dropLast)⟩
  | .plain body =>
    match dropIdleEnd body with
    | [] => none
    | ss => some ⟨joinSegments (dropIdleEnd ss.dropLast)⟩

/-- The last component, if it is a name. -/
def fileName (p : Path) : Option Text :=
  match p.components.getLast? with
  | some (.name n) => some n
  | _ => none

/-- What follows the last dot of a name, unless the name begins with that dot. -/
def extensionOfName (name : Text) : Option Text :=
  match Text.cutAt '.' name.reverse with
  | some (after, before) => if before.isEmpty then none else some after.reverse
  | none => none

def extension (p : Path) : Option Text := p.fileName.bind extensionOfName

/-! ### Building -/

/-- `q` seen from `p`; an absolute `q` stands for itself. -/
def join (p q : Path) : Path :=
  if q.isAbsolute then q
  else match p.chars.getLast? with
    | none => q
    | some '/' => ⟨p.chars ++ q.chars⟩
    | some _ => ⟨p.chars ++ '/' :: q.chars⟩

/-- The path with more characters at its end. -/
def withSuffix (p : Path) (suffix : Text) : Path := ⟨p.chars ++ suffix⟩

/-- The path with another last name. -/
def withFileName (p : Path) (name : Text) : Path :=
  match p.fileName with
  | some _ => (p.parent.getD ⟨[]⟩).join ⟨name⟩
  | none => p.join ⟨name⟩

/-- Drops from the front the segments of `n` components. -/
def dropComponents : Nat → List Text → List Text
  | 0, ss => ss
  | _ + 1, [] => []
  | n + 1, s :: ss => if isIdle s then dropComponents (n + 1) ss else dropComponents n ss

/-- The spelling of `p` below `base`, if `p` is at or below it.  Idle segments at both ends
are dropped, except at the front when `base` is empty. -/
def stripBase (p base : Path) : Option Path :=
  if p.startsWith base then
    let count := base.components.length
    let inner (body : List Text) (n : Nat) : Path :=
      ⟨joinSegments (dropIdleEnd ((dropComponents n body).dropWhile isIdle))⟩
    some <| match count, p.lead with
      | 0, .root body => ⟨'/' :: joinSegments (dropIdleEnd body)⟩
      | 0, .current body => ⟨joinSegments (['.'] :: dropIdleEnd body)⟩
      | 0, .plain body => ⟨joinSegments (dropIdleEnd body)⟩
      | n + 1, .root body => inner body n
      | n + 1, .current body => inner body n
      | n + 1, .plain body => inner body (n + 1)
  else none

/-! ### Order -/

/-- Whether one list of components comes before another. -/
def componentsBefore : List Component → List Component → Bool
  | [], [] => false
  | [], _ :: _ => true
  | _ :: _, [] => false
  | a :: as, b :: bs => a.before b || (a == b && componentsBefore as bs)

/-- The order in which paths are listed: component by component. -/
def before (p q : Path) : Bool := componentsBefore p.components q.components

/-- The paths in order, each once. -/
def sorted (ps : List Path) : List Path :=
  let ordered := ps.mergeSort fun p q => !(q.before p)
  let rec dedup : List Path → List Path
    | [] => []
    | [p] => [p]
    | p :: q :: r => if p.components = q.components then dedup (p :: r) else p :: dedup (q :: r)
  termination_by ps => ps.length
  dedup ordered

/-! ### Upward walks end -/

theorem dropIdleEnd_append (ss : List Text) : ∃ t, ss = dropIdleEnd ss ++ t := by
  refine ⟨(ss.reverse.takeWhile isIdle).reverse, ?_⟩
  rw [dropIdleEnd, ← List.reverse_append, List.takeWhile_append_dropWhile, List.reverse_reverse]

theorem length_joinSegments_append_le (a b : List Text) :
    (joinSegments a).length ≤ (joinSegments (a ++ b)).length := by
  induction a with
  | nil => simp [joinSegments]
  | cons s r ih =>
    match r, b with
    | [], [] => simp
    | [], t :: b => simp [joinSegments]
    | t :: r, b =>
      simp only [List.cons_append, joinSegments, List.length_append, List.length_cons] at ih ⊢
      omega

theorem length_joinSegments_lt (a : List Text) {s : Text} (h : s ≠ []) :
    (joinSegments a).length < (joinSegments (a ++ [s])).length := by
  induction a with
  | nil =>
    have := List.length_pos_iff.2 h
    simpa [joinSegments] using this
  | cons t r ih =>
    match r with
    | [] =>
      have := List.length_pos_iff.2 h
      simp [joinSegments]
    | u :: r =>
      simp only [List.cons_append, joinSegments, List.length_append, List.length_cons] at ih ⊢
      omega

theorem getLast_dropIdleEnd_ne_nil {ss : List Text} (h : dropIdleEnd ss ≠ []) :
    (dropIdleEnd ss).getLast h ≠ [] := by
  intro hl
  have hd : ss.reverse.dropWhile isIdle ≠ [] := by
    intro hn
    exact h (by rw [dropIdleEnd, hn]; rfl)
  have h1 : (ss.reverse.dropWhile isIdle).head hd = [] := by
    have := List.getLast_reverse (l := ss.reverse.dropWhile isIdle) (by simpa using hd)
    rw [← this]
    exact hl
  have h2 := List.head_dropWhile_not (p := isIdle) (l := ss.reverse) hd
  rw [h1] at h2
  simp [isIdle] at h2

/-- Dropping the last segment that names something shortens a spelling. -/
theorem length_joinSegments_parent_lt {body : List Text} (h : dropIdleEnd body ≠ []) :
    (joinSegments (dropIdleEnd (dropIdleEnd body).dropLast)).length
      < (joinSegments body).length := by
  obtain ⟨t, ht⟩ := dropIdleEnd_append (dropIdleEnd body).dropLast
  obtain ⟨u, hu⟩ := dropIdleEnd_append body
  have hlast := getLast_dropIdleEnd_ne_nil h
  have h1 := length_joinSegments_append_le (dropIdleEnd (dropIdleEnd body).dropLast) t
  rw [← ht] at h1
  have h2 := length_joinSegments_lt (dropIdleEnd body).dropLast hlast
  rw [List.dropLast_concat_getLast h] at h2
  have h3 := length_joinSegments_append_le (dropIdleEnd body) u
  rw [← hu] at h3
  omega

theorem splitOn_ne_nil (sep : Char) (cs : Text) : Text.splitOn sep cs ≠ [] := by
  cases cs with
  | nil => simp [Text.splitOn]
  | cons c cs =>
    simp only [Text.splitOn]
    split
    · simp
    · split <;> simp

theorem joinSegments_segments (cs : Text) : joinSegments (segments cs) = cs := by
  unfold segments
  induction cs with
  | nil => rfl
  | cons c cs ih =>
    simp only [Text.splitOn]
    split
    · next h =>
      subst h
      match hs : Text.splitOn '/' cs with
      | [] => exact absurd hs (splitOn_ne_nil _ _)
      | s :: r => rw [hs] at ih; simp [joinSegments, ih]
    · match hs : Text.splitOn '/' cs with
      | [] => exact absurd hs (splitOn_ne_nil _ _)
      | [s] => rw [hs] at ih; simp_all [joinSegments]
      | s :: t :: r => rw [hs] at ih; simp_all [joinSegments]

/-- The spelling that a lead and its segments came from. -/
def Lead.chars : Lead → Text
  | .root body => '/' :: joinSegments body
  | .current body => joinSegments (['.'] :: body)
  | .plain body => joinSegments body

theorem chars_lead (p : Path) : p.lead.chars = p.chars := by
  unfold lead
  split
  · next cs h => simp [Lead.chars, joinSegments_segments, h]
  · next cs h =>
    have hj := joinSegments_segments p.chars
    split
    · next rest hs => rw [hs] at hj; exact hj
    · next ss hs => simpa [Lead.chars] using hj

theorem parent_length_lt {p q : Path} (h : p.parent = some q) :
    q.chars.length < p.chars.length := by
  rw [← chars_lead p]
  unfold parent at h
  split at h
  · next body hl =>
    rw [hl]
    split at h
    · simp at h
    · next ss hne =>
      obtain rfl := Option.some.inj h
      have := @length_joinSegments_parent_lt body hne
      simp only [Lead.chars, List.length_cons]
      omega
  · next body hl =>
    rw [hl]
    split at h
    · obtain rfl := Option.some.inj h
      match body with
      | [] => simp [Lead.chars, joinSegments]
      | _ :: _ => simp [Lead.chars, joinSegments]
    · next ss hne =>
      obtain rfl := Option.some.inj h
      have hlt := @length_joinSegments_parent_lt body hne
      match hb : body, hd : dropIdleEnd (dropIdleEnd body).dropLast with
      | [], _ => simp [dropIdleEnd] at hne
      | s :: r, [] => simp [Lead.chars, joinSegments]
      | s :: r, u :: v =>
        rw [← hb, hd] at hlt
        simp only [Lead.chars, joinSegments, ← hb, List.length_append, List.length_cons] at hlt ⊢
        omega
  · next body hl =>
    rw [hl]
    split at h
    · simp at h
    · next ss hne =>
      obtain rfl := Option.some.inj h
      simpa [Lead.chars] using @length_joinSegments_parent_lt body hne

end Path

end ImportLint
