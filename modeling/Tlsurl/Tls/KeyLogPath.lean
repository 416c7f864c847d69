import Mathlib.Data.List.TakeWhile
import Tlsurl.Http.Str

/-! The path of a key log (`tls/keylog.rs`).
A path is made plain without a look at the file system, in which a name may be a link and the parent
of what it leads to another directory than the one that it is in.
-/

namespace Tlsurl.KeyLog

-----------------------------------------------------------------------------------------
-- Components and paths
-----------------------------------------------------------------------------------------

/-- `Component`; only a path of Windows has a prefix. -/
inductive Component where
  | pathPrefix (text : Str)
  | rootDir
  | curDir
  | parentDir
  | normal (name : Str)
  deriving DecidableEq

/-- A component of a path past its root -/
def Component.inner : Component → Bool
  | .pathPrefix _ => false
  | .rootDir => false
  | _ => true

/-- What a path begins with: its prefix, and the root -/
def beginning (volume : Option Str) (root : Bool) : List Component :=
  (volume.map Component.pathPrefix).toList ++ if root then [.rootDir] else []

/-- `Components`: a prefix and the root come first, if there are any. -/
structure Components where
  volume : Option Str := none
  root : Bool := false
  rest : List Component
  inner : ∀ component ∈ rest, component.inner = true

/-- What the iterator yields -/
def Components.toList (path : Components) : List Component :=
  beginning path.volume path.root ++ path.rest

/-- `PathBuf`, as `normalize_path` builds it -/
structure PathBuf where
  volume : Option Str := none
  root : Bool := false
  names : List Str := []
  deriving DecidableEq

/-- The components of a plain path -/
def PathBuf.toList (path : PathBuf) : List Component :=
  beginning path.volume path.root ++ path.names.map .normal

/-- `PathBuf::push` or `PathBuf::pop`, whichever a component asks for. A prefix is `unreachable!`.
Where a name of Windows has a prefix of its own, as an entry `C:x` has, `push` would start again
from it; no such name is meant.
-/
def PathBuf.step (path : PathBuf) : Component → Option PathBuf
  | .pathPrefix _ => none
  | .rootDir => some { path with root := true, names := [] }
  | .curDir => some path
  | .parentDir => some { path with names := path.names.dropLast }
  | .normal name => some { path with names := path.names ++ [name] }

/-- `normalize_path` -/
def normalizePath (components : List Component) : Option PathBuf :=
  match components with
  | .pathPrefix text :: rest => rest.foldlM PathBuf.step { volume := some text }
  | components => components.foldlM PathBuf.step {}

-----------------------------------------------------------------------------------------
-- Paths of Unix
-----------------------------------------------------------------------------------------

/-- What a part between separators stands for; `.` and empty parts are skipped. -/
def Component.ofPart (part : Str) : Option Component :=
  if part = [] ∨ part = ascii "." then none
  else if part = ascii ".." then some .parentDir
  else some (.normal part)

theorem inner_of_ofPart {part : Str} {component : Component}
    (made : Component.ofPart part = some component)
    : component.inner = true := by
  unfold Component.ofPart at made
  split at made
  · cases made
  · split at made <;> cases made <;> rfl

/-- `Path::components`. A leading `.` is kept. -/
def components (path : Str) : Components where
  root := path.head? == some 47
  rest :=
    (if (path.splitOn 47).head? = some (ascii ".") then [.curDir] else [])
      ++ (path.splitOn 47).filterMap Component.ofPart
  inner component member := by
    rcases List.mem_append.mp member with first | later
    · split at first
      · cases List.mem_singleton.mp first
        rfl
      · cases first
    · obtain ⟨part, _, made⟩ := List.mem_filterMap.mp later
      exact inner_of_ofPart made

-----------------------------------------------------------------------------------------
-- The file that a path names
-----------------------------------------------------------------------------------------

/-- A directory or file: its volume, and the names that lead to it from the root without a link -/
structure Place where
  volume : Option Str
  names : List Str

/-- The names that lead to a place are not links, where entries of directories lead so. -/
def Place.Direct (place : Place) (enter : Place → Str → Place) : Prop :=
  ∀ names name, names ++ [name] <+: place.names
    → enter { place with names } name = { place with names := names ++ [name] }

/-- What a file system and a process decide: where a path with this prefix or none begins, and where
an entry of a directory leads
-/
structure System where
  current : Option Str → Place
  enter : Place → Str → Place
  begins : ∀ volume, (current volume).Direct enter
  leads : ∀ place name, place.Direct enter → (enter place name).Direct enter

/-- One step from a directory. The parent of the root is the root. -/
def System.walk (system : System) (place : Place) : Component → Place
  | .pathPrefix text => system.current (some text)
  | .rootDir => { place with names := [] }
  | .curDir => place
  | .parentDir => { place with names := place.names.dropLast }
  | .normal name => system.enter place name

/-- What a path names -/
def System.named (system : System) (path : List Component) : Place :=
  path.foldl system.walk (system.current none)

/-- No entry is a link. -/
def System.Linkless (system : System) : Prop :=
  ∀ place name, system.enter place name = { place with names := place.names ++ [name] }

/-- Whether a walk without links never leads above the directory that it has come down from by these
steps
-/
def stays : Nat → List Component → Bool
  | _, [] => true
  | depth, .normal _ :: rest => stays (depth + 1) rest
  | 0, .parentDir :: _ => false
  | depth + 1, .parentDir :: rest => stays depth rest
  | depth, _ :: rest => stays depth rest

@[simp]
def Component.isNormal : Component → Bool
  | .normal _ => true
  | _ => false

/-- The components of a path from the first of which on a parent may be anywhere: before the first
name, the parent of the root is the root.
-/
def Components.unrooted (path : Components) : List Component :=
  if path.root then path.rest.dropWhile (fun component => !component.isNormal) else path.rest

-----------------------------------------------------------------------------------------
-- Walks
-----------------------------------------------------------------------------------------

/-- The names of a plain path after one more component -/
def climb (names : List Str) : Component → List Str
  | .parentDir => names.dropLast
  | .normal name => names ++ [name]
  | _ => names

/-- How often components lead to the parent -/
def parents (components : List Component) : Nat := components.count .parentDir

/-- How many components are names -/
def normals (components : List Component) : Nat := components.countP Component.isNormal

@[simp]
theorem parents_cons (component : Component) (rest : List Component)
    : parents (component :: rest) = parents rest + if component = .parentDir then 1 else 0 := by
  rw [parents, List.count_cons]
  simp [parents]

@[simp]
theorem normals_cons (component : Component) (rest : List Component)
    : normals (component :: rest) = normals rest + if component.isNormal then 1 else 0 :=
  List.countP_cons

/-- Where a path begins -/
def System.start (system : System) (volume : Option Str) (root : Bool) : Place :=
  if root then { system.current volume with names := [] } else system.current volume

theorem named_beginning (system : System) (volume : Option Str) (root : Bool)
    (rest : List Component)
    : system.named (beginning volume root ++ rest)
      = rest.foldl system.walk (system.start volume root) := by
  rw [System.named, List.foldl_append]
  cases volume <;> cases root <;> rfl

/-- Past its beginning the code only changes the names, by induction on the components. -/
theorem foldlM_step {rest : List Component}
    (inner : ∀ component ∈ rest, component.inner = true) (path : PathBuf)
    : rest.foldlM PathBuf.step path = some { path with names := rest.foldl climb path.names } := by
  induction rest generalizing path with
  | nil => rfl
  | cons component rest ih =>
      obtain ⟨first, others⟩ := List.forall_mem_cons.mp inner
      rw [List.foldlM_cons, List.foldl_cons]
      cases component with
      | pathPrefix text => cases first
      | rootDir => cases first
      | curDir => exact ih others path
      | parentDir => exact ih others { path with names := path.names.dropLast }
      | normal name => exact ih others { path with names := path.names ++ [name] }

/-- The plain path has the beginning of the path. -/
theorem normalizePath_toList (path : Components)
    : normalizePath path.toList
      = some { volume := path.volume, root := path.root, names := path.rest.foldl climb [] } := by
  obtain ⟨volume, root, rest, inner⟩ := path
  cases volume with
  | some text => cases root <;> exact foldlM_step inner _
  | none =>
      cases root with
      | true => exact foldlM_step inner { root := true }
      | false =>
          have unprefixed : normalizePath rest = rest.foldlM PathBuf.step {} := by
            rw [normalizePath]
            intro text others same
            subst same
            cases inner (.pathPrefix text) List.mem_cons_self
          exact unprefixed.trans (foldlM_step inner {})

section Inner

variable {rest : List Component} (inner : ∀ component ∈ rest, component.inner = true)
include inner

/-- Without links a walk climbs as the plain path does, by induction on the components. -/
theorem foldl_walk_linkless {system : System} (linkless : system.Linkless) (place : Place)
    : rest.foldl system.walk place = { place with names := rest.foldl climb place.names } := by
  induction rest generalizing place with
  | nil => rfl
  | cons component rest ih =>
      obtain ⟨first, others⟩ := List.forall_mem_cons.mp inner
      rw [List.foldl_cons, List.foldl_cons, ih others]
      cases component with
      | pathPrefix text => cases first
      | rootDir => cases first
      | curDir => rfl
      | parentDir => rfl
      | normal name => rw [System.walk, linkless]; rfl

/-- What stays is the same under any directory, by induction on the components. -/
theorem foldl_climb_stays (directory names : List Str) (staying : stays names.length rest = true)
    : rest.foldl climb (directory ++ names) = directory ++ rest.foldl climb names := by
  induction rest generalizing names with
  | nil => rfl
  | cons component rest ih =>
      obtain ⟨first, others⟩ := List.forall_mem_cons.mp inner
      cases component with
      | pathPrefix text => cases first
      | rootDir => cases first
      | curDir => exact ih others names (by simpa [stays] using staying)
      | parentDir =>
          rcases List.eq_nil_or_concat names with rfl | ⟨shorter, last, rfl⟩
          · simp [stays] at staying
          · have still : stays shorter.length rest = true := by simpa [stays] using staying
            have dropped : (directory ++ shorter.concat last).dropLast = directory ++ shorter := by
              rw [List.concat_eq_append, ← List.append_assoc, List.dropLast_concat]
            simpa [climb, dropped] using ih others shorter still
      | normal name =>
          have still : stays (names ++ [name]).length rest = true := by
            simpa [stays] using staying
          simpa [climb] using ih others (names ++ [name]) still

/-- Every parent undoes at most one name, by induction on the components. -/
theorem le_length_climb (names : List Str)
    : names.length + normals rest ≤ (rest.foldl climb names).length + parents rest := by
  induction rest generalizing names with
  | nil => exact Nat.le_refl _
  | cons component rest ih =>
      obtain ⟨first, others⟩ := List.forall_mem_cons.mp inner
      cases component with
      | pathPrefix text => cases first
      | rootDir => cases first
      | curDir => simpa [climb] using ih others names
      | parentDir =>
          have later := ih others names.dropLast
          simp [climb] at later ⊢
          omega
      | normal name =>
          have later := ih others (names ++ [name])
          simp [climb] at later ⊢
          omega

/-- A parent above the start undoes nothing, by induction on the components. -/
theorem lt_length_climb (names : List Str) (climbs : stays names.length rest = false)
    : names.length + normals rest < (rest.foldl climb names).length + parents rest := by
  induction rest generalizing names with
  | nil => cases climbs
  | cons component rest ih =>
      obtain ⟨first, others⟩ := List.forall_mem_cons.mp inner
      cases component with
      | pathPrefix text => cases first
      | rootDir => cases first
      | curDir =>
          have later := ih others names (by simpa [stays] using climbs)
          simpa [climb] using later
      | parentDir =>
          rcases List.eq_nil_or_concat names with rfl | ⟨shorter, last, rfl⟩
          · have later := le_length_climb others []
            simp [climb] at later ⊢
            omega
          · have later := ih others shorter (by simpa [stays] using climbs)
            simp [climb] at later ⊢
            omega
      | normal name =>
          have more : stays (names ++ [name]).length rest = false := by
            simpa [stays] using climbs
          have later := ih others (names ++ [name]) more
          simp [climb] at later ⊢
          omega

/-- Without parents, all that counts is the names, by induction on the components. -/
theorem foldl_normals (ahead : .parentDir ∉ rest) (system : System) (names : List Str)
    : ∃ added, rest.foldl climb names = names ++ added
      ∧ ∀ place, (added.map .normal).foldl system.walk place = rest.foldl system.walk place := by
  induction rest generalizing names with
  | nil => exact ⟨[], by simp, fun _ => rfl⟩
  | cons component rest ih =>
      obtain ⟨first, others⟩ := List.forall_mem_cons.mp inner
      obtain ⟨different, later⟩ := List.ne_and_not_mem_of_not_mem_cons ahead
      cases component with
      | pathPrefix text => cases first
      | rootDir => cases first
      | curDir => exact ih others later names
      | parentDir => exact absurd rfl different
      | normal name =>
          obtain ⟨added, climbed, walked⟩ := ih others later (names ++ [name])
          refine ⟨name :: added, ?_, fun place => walked (system.enter place name)⟩
          simpa [climb] using climbed

/-- Before the first name a walk from the root stays there, by induction on the components. -/
theorem foldl_root (nameless : ∀ component ∈ rest, component.isNormal = false) (system : System)
    (volume : Option Str)
    : rest.foldl climb [] = [] ∧ rest.foldl system.walk ⟨volume, []⟩ = ⟨volume, []⟩ := by
  induction rest with
  | nil => exact ⟨rfl, rfl⟩
  | cons component rest ih =>
      obtain ⟨first, others⟩ := List.forall_mem_cons.mp inner
      obtain ⟨here, later⟩ := List.forall_mem_cons.mp nameless
      cases component with
      | pathPrefix text => cases first
      | rootDir => cases first
      | curDir => exact ih others later
      | parentDir => exact ih others later
      | normal name => cases here

end Inner

-----------------------------------------------------------------------------------------
-- Systems that tell paths apart
-----------------------------------------------------------------------------------------

/-- Paths begin at this depth, and no entry is a link. -/
def System.straight (depth : Nat) : System where
  current volume := { volume, names := List.replicate depth [] }
  enter place name := { place with names := place.names ++ [name] }
  begins _ _ _ _ := rfl
  leads _ _ _ _ _ _ := rfl

theorem System.straight_linkless (depth : Nat) : (System.straight depth).Linkless :=
  fun _ _ => rfl

/-- A name at the end of one that goes on with copies of a name is that name, or was there. -/
theorem prefix_or_eq {names : List Str} {name step : Str} (start : List Str) {count : Nat}
    (begins : names ++ [name] <+: start ++ List.replicate count step)
    : names ++ [name] <+: start ∨ name = step := by
  rcases List.prefix_or_prefix_of_prefix begins (List.prefix_append start _) with within | past
  · exact .inl within
  · obtain ⟨added, split⟩ := past
    rcases List.eq_nil_or_concat added with rfl | ⟨others, last, rfl⟩
    · exact .inl (split ▸ by simp)
    · refine .inr ?_
      rw [List.concat_eq_append, ← List.append_assoc] at split
      obtain ⟨rfl, same⟩ := List.append_inj' split rfl
      cases same
      rw [List.append_assoc, List.prefix_append_right_inj] at begins
      exact List.eq_of_mem_replicate (begins.subset (by simp))

/-- Paths begin at this depth, and each entry but one is a link that leads down by this many names.
-/
def System.wide (step : Str) (depth width : Nat) : System where
  current volume := { volume, names := List.replicate depth step }
  enter place name :=
    { place with names := place.names ++ List.replicate (if name = step then 1 else width) step }
  begins volume names name within := by
    rcases prefix_or_eq [] within with nothing | rfl
    · simp at nothing
    · simp
  leads place entry direct names name within := by
    rcases prefix_or_eq place.names within with before | rfl
    · exact direct names name before
    · simp

/-- As long as a walk in which each name leads down so far never comes to the root, its depth counts
names and parents, by induction on the components.
-/
theorem length_walk {system : System} {width : Nat} {rest : List Component}
    (inner : ∀ component ∈ rest, component.inner = true)
    (grows
      : ∀ place name, .normal name ∈ rest
        → (system.enter place name).names.length = place.names.length + width)
    (place : Place) (deep : parents rest ≤ place.names.length)
    : (rest.foldl system.walk place).names.length + parents rest
      = place.names.length + width * normals rest := by
  induction rest generalizing place with
  | nil => rfl
  | cons component rest ih =>
      obtain ⟨first, others⟩ := List.forall_mem_cons.mp inner
      have later := ih others (fun place name member => grows place name (.tail _ member))
      cases component with
      | pathPrefix text => cases first
      | rootDir => cases first
      | curDir => simpa [System.walk] using later place (by simpa using deep)
      | parentDir =>
          simp only [parents_cons, if_true] at deep
          have left := later { place with names := place.names.dropLast }
            (by rw [List.length_dropLast]; omega)
          simp [System.walk] at left ⊢
          omega
      | normal name =>
          have wider := grows place name (.head _)
          have left := later (system.enter place name) (by simp at deep; omega)
          simp [System.walk, Nat.mul_add] at left ⊢
          omega

/-- Of a plain path, only names are walked. -/
theorem length_walk_normals {system : System} {width : Nat} {names : List Str}
    (grows
      : ∀ place, ∀ name ∈ names,
        (system.enter place name).names.length = place.names.length + width)
    (place : Place)
    : ((names.map .normal).foldl system.walk place).names.length
      = place.names.length + width * names.length := by
  induction names generalizing place with
  | nil => rfl
  | cons name names ih =>
      have later := ih (fun place other member => grows place other (.tail _ member))
      rw [List.map_cons, List.foldl_cons, later]
      have wider := grows place name (.head _)
      simp [System.walk, Nat.mul_add]
      omega

/-- The names of components -/
def Component.names : Component → List Str
  | .normal name => [name]
  | _ => []

/-- A name that no component has, since it is longer -/
def fresh (rest : List Component) : Str := 0 :: (rest.flatMap Component.names).flatten

theorem ne_fresh {rest : List Component} {name : Str} (member : .normal name ∈ rest)
    : name ≠ fresh rest := by
  intro same
  have listed : name ∈ rest.flatMap Component.names :=
    List.mem_flatMap.mpr ⟨.normal name, member, List.mem_singleton_self name⟩
  have shorter := (List.sublist_flatten_of_mem listed).length_le
  have longer := congrArg List.length same
  simp only [fresh, List.length_cons] at longer
  omega

/-- A plain path has names of the path only, by induction on the components. -/
theorem mem_foldl_climb {rest : List Component} {names : List Str} {name : Str}
    (member : name ∈ rest.foldl climb names)
    : name ∈ names ∨ .normal name ∈ rest := by
  induction rest generalizing names with
  | nil => exact .inl member
  | cons component rest ih =>
      rcases ih member with before | later
      · cases component with
        | normal passed =>
            rcases List.mem_append.mp before with old | new
            · exact .inl old
            · exact .inr (List.mem_singleton.mp new ▸ List.mem_cons_self)
        | parentDir => exact .inl (List.dropLast_subset names before)
        | _ => exact .inl before
      · exact .inr (List.mem_cons_of_mem _ later)

/-- There is a system in which paths begin deep enough and the names of a path are links. -/
theorem exists_wide (rest : List Component) (depth width : Nat)
    : ∃ system : System,
      (∀ volume, (system.current volume).names.length = depth)
        ∧ ∀ place name, .normal name ∈ rest
          → (system.enter place name).names.length = place.names.length + width := by
  refine ⟨.wide (fresh rest) depth width, fun _ => List.length_replicate, ?_⟩
  intro place name member
  simp [System.wide, ne_fresh member]

/-- Fewer parents than an entry leads down do not add up to entries. -/
theorem ne_of_parents {width count names parents : Nat} (some : 0 < parents)
    (fewer : parents < width)
    : width * count + parents ≠ width * names := by
  intro same
  have left := congrArg (· % width) same
  simp [Nat.mod_eq_of_lt fewer] at left
  omega

-----------------------------------------------------------------------------------------
-- Plain paths
-----------------------------------------------------------------------------------------

section Plain

variable (path : Components)

/-- `normalize_path` of a path -/
def Components.plain : PathBuf where
  volume := path.volume
  root := path.root
  names := path.rest.foldl climb []

theorem named_path (system : System)
    : system.named path.toList
      = path.rest.foldl system.walk (system.start path.volume path.root) :=
  named_beginning system path.volume path.root path.rest

theorem named_plain (system : System)
    : system.named path.plain.toList
      = (path.plain.names.map .normal).foldl system.walk
          (system.start path.volume path.root) :=
  named_beginning system path.volume path.root _

theorem start_root (system : System) (volume : Option Str)
    : system.start volume true = ⟨(system.current volume).volume, []⟩ :=
  if_pos rfl

/-- Without links a plain path adds its names. -/
theorem foldl_walk_plain {system : System} (linkless : system.Linkless) (names : List Str)
    (place : Place)
    : (names.map .normal).foldl system.walk place
      = { place with names := place.names ++ names } := by
  induction names generalizing place with
  | nil => simp
  | cons name names ih =>
      rw [List.map_cons, List.foldl_cons, ih, System.walk, linkless]
      simp

/-- Without links, a path from the root or one that never leads above its start is its plain path,
and no other.
-/
theorem named_plain_linkless_iff
    : (∀ system : System, system.Linkless
        → system.named path.plain.toList = system.named path.toList)
      ↔ path.root = true ∨ stays 0 path.rest = true := by
  constructor
  · intro same
    cases root : path.root with
    | true => exact .inl rfl
    | false =>
        refine .inr (Bool.of_not_eq_false (fun climbs => ?_))
        let system := System.straight (parents path.rest)
        have grows (place : Place) (name : Str)
            : (system.enter place name).names.length = place.names.length + 1 :=
          List.length_append
        have equal := same system (System.straight_linkless (parents path.rest))
        rw [named_plain, named_path, root] at equal
        have all : ∀ place, ∀ name ∈ path.plain.names,
            (system.enter place name).names.length = place.names.length + 1 :=
          fun place name _ => grows place name
        have plain := length_walk_normals all (system.start path.volume false)
        have walked := length_walk path.inner (fun place name _ => grows place name)
          (system.start path.volume false) (by simp [System.start, system, System.straight])
        have longer := lt_length_climb path.inner [] climbs
        rw [equal] at plain
        simp only [Components.plain, List.length_nil] at plain longer
        omega
  · intro holds system linkless
    rw [named_plain, named_path, foldl_walk_plain linkless, foldl_walk_linkless path.inner linkless]
    rcases holds with root | staying
    · rw [root, start_root]
      rfl
    · have under :=
        foldl_climb_stays path.inner (system.start path.volume path.root).names [] staying
      rw [List.append_nil] at under
      rw [under]
      rfl

theorem unrooted_subset : path.unrooted ⊆ path.rest := by
  rw [Components.unrooted]
  split
  · exact List.dropWhile_subset _
  · exact List.Subset.refl _

theorem inner_unrooted : ∀ component ∈ path.unrooted, component.inner = true :=
  fun component member => path.inner component (unrooted_subset path member)

/-- Up to its first name, a path from the root stays there. -/
theorem foldl_unrooted (system : System)
    : path.rest.foldl climb [] = path.unrooted.foldl climb []
      ∧ path.rest.foldl system.walk (system.start path.volume path.root)
        = path.unrooted.foldl system.walk (system.start path.volume path.root) := by
  cases root : path.root with
  | false => simp [Components.unrooted, root]
  | true =>
      let lead := path.rest.takeWhile (fun component => !component.isNormal)
      have split : lead ++ path.unrooted = path.rest := by
        rw [Components.unrooted, root]
        exact List.takeWhile_append_dropWhile
      have inner (component : Component) (member : component ∈ lead)
          : component.inner = true :=
        path.inner component (List.takeWhile_subset _ member)
      have nameless (component : Component) (member : component ∈ lead)
          : component.isNormal = false := by
        simpa using List.mem_takeWhile_imp member
      obtain ⟨climbed, walked⟩ :=
        foldl_root inner nameless system (system.current path.volume).volume
      rw [← split, List.foldl_append, List.foldl_append, climbed, start_root, walked]
      exact ⟨rfl, rfl⟩

/-- Where names lead deep, a walk never comes back to the root by what may be anywhere. -/
theorem length_unrooted {system : System} {width : Nat}
    (grows
      : ∀ place name, .normal name ∈ path.rest
        → (system.enter place name).names.length = place.names.length + width)
    (deep : parents path.unrooted ≤ (system.current path.volume).names.length)
    (wide : parents path.unrooted ≤ width)
    : (path.unrooted.foldl system.walk (system.start path.volume path.root)).names.length
        + parents path.unrooted
      = (system.start path.volume path.root).names.length + width * normals path.unrooted := by
  have inner := inner_unrooted path
  have leads (place : Place) (name : Str) (member : .normal name ∈ path.unrooted)
      : (system.enter place name).names.length = place.names.length + width :=
    grows place name (unrooted_subset path member)
  cases root : path.root with
  | false => exact length_walk inner leads _ deep
  | true =>
      have first := List.head?_dropWhile_not
        (fun component : Component => !component.isNormal) path.rest
      have unrooted
          : path.unrooted = path.rest.dropWhile (fun component => !component.isNormal) := by
        rw [Components.unrooted, root]
        rfl
      rw [← unrooted] at first
      generalize path.unrooted = rest at first inner wide leads
      cases rest with
      | nil => rfl
      | cons component rest =>
          cases component with
          | normal name =>
              obtain ⟨_, others⟩ := List.forall_mem_cons.mp inner
              have entered := leads (system.start path.volume true) name (.head _)
              have walked := length_walk others
                (fun place name member => leads place name (.tail _ member))
                (system.enter (system.start path.volume true) name)
                (by simp at wide; omega)
              simp [System.walk, Nat.mul_add] at walked ⊢
              omega
          | _ => cases first

/-- Whatever is a link, a path without a parent that may be anywhere is its plain path, and no
other.
-/
theorem named_plain_iff
    : (∀ system : System, system.named path.plain.toList = system.named path.toList)
      ↔ .parentDir ∉ path.unrooted := by
  constructor
  · intro same member
    have some : 0 < parents path.unrooted := List.count_pos_iff.mpr member
    let depth := parents path.unrooted
    obtain ⟨system, deep, grows⟩ := exists_wide path.rest depth (depth + 1)
    have equal := same system
    rw [named_plain, named_path, (foldl_unrooted path _).2] at equal
    have listed (name : Str) (member : name ∈ path.plain.names) : .normal name ∈ path.rest :=
      (mem_foldl_climb member).resolve_left List.not_mem_nil
    have plain :=
      length_walk_normals (fun place name member => grows place name (listed name member))
      (system.start path.volume path.root)
    have walked := length_unrooted path grows (deep path.volume).ge (Nat.le_add_right depth 1)
    rw [equal] at plain
    have sums
        : (depth + 1) * path.plain.names.length + depth
          = (depth + 1) * normals path.unrooted := by
      omega
    exact ne_of_parents some (Nat.lt_succ_self depth) sums
  · intro ahead system
    obtain ⟨climbed, walked⟩ := foldl_unrooted path system
    obtain ⟨added, names, same⟩ := foldl_normals (inner_unrooted path) ahead system []
    rw [named_plain, named_path, walked, ← same, Components.plain, climbed, names]
    rfl

end Plain

example : (components (ascii "../keys.log")).plain.names = [ascii "keys.log"] := by
  decide

example : .parentDir ∈ (components (ascii "/tmp/link/../keys.log")).unrooted := by
  decide

end Tlsurl.KeyLog
