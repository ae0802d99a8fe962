import Mathlib.Data.List.DropRight
import ShadingGraph.Files.Tree
import ShadingGraph.Proofs.Files.Path

/-!
# Places that paths lead to

A path leads to a place, whatever stands there: its pieces are followed one after the other from the
root or from the working directory. A relative path leads some places back and then forward through
names, so that where it leads from two directories is the same exactly if going back leads to the
same place.

## Main definitions

- `Path.directory` — the path of the directory that holds a file
- `FileTree.place` — the place that a path leads to
- `Route` — how far a relative path leads back, and the names behind

## Main results

- `FileTree.place_of_locate` — a path that can be followed leads to its place
- `FileTree.place_join`, `FileTree.place_join_eq_iff` — a path relative to a base
- `FileTree.place_directory` — the directory that holds a file
-/

namespace ShadingGraph

/-- The directory that holds the file at a path; it is the working directory, whose path is empty,
where the path has no parent. -/
def Path.directory (path : String) : String := (Path.parent? path).getD ""

/-- The way of a relative path: so many places back, and then these names forward. -/
structure Route where
  back : Nat
  names : Location

namespace Route

/-- The way that stays. -/
def stay : Route := ⟨0, []⟩

/-- The way with one piece more. A double dot takes the last name away; where there is none, it
leads one place further back. -/
def extend (r : Route) (piece : List Char) : Route :=
  if piece = [] ∨ piece = ['.'] then r
  else if piece = ['.', '.'] then
    if r.names = [] then { r with back := r.back + 1 } else { r with names := r.names.dropLast }
  else { r with names := r.names ++ [piece] }

/-- The way of a path. -/
def ofPath (path : String) : Route := (Path.splitSlash path.toList).foldl extend stay

/-- Where a way leads from a place. The root is its own parent. -/
def destination (r : Route) (place : Location) : Location := place.rdrop r.back ++ r.names

theorem dropLast_rdrop {α : Type} (l : List α) (n : Nat) :
    (l.rdrop n).dropLast = l.rdrop (n + 1) := by
  unfold List.rdrop
  rw [List.dropLast_eq_take, List.take_take, List.length_take]
  congr 1
  omega

/-- To go one piece further from where a way leads is to go the longer way. -/
theorem follow_destination (r : Route) (place : Location) (piece : List Char) :
    FileTree.follow (r.destination place) piece = (r.extend piece).destination place := by
  unfold FileTree.follow extend
  split
  · rfl
  · split
    · split
      case isTrue hnames =>
        unfold destination
        rw [hnames, List.append_nil, List.append_nil, dropLast_rdrop]
      case isFalse hnames => exact List.dropLast_append_of_ne_nil hnames
    · exact List.append_assoc _ _ _

theorem foldl_follow_destination (r : Route) (place : Location) (pieces : List (List Char)) :
    pieces.foldl FileTree.follow (r.destination place) =
      (pieces.foldl extend r).destination place := by
  induction pieces generalizing r with
  | nil => rfl
  | cons piece pieces ih => rw [List.foldl_cons, List.foldl_cons, follow_destination, ih]

/-- Pieces that are followed from a place lead where their way leads. -/
theorem foldl_follow (place : Location) (path : String) :
    (Path.splitSlash path.toList).foldl FileTree.follow place =
      (ofPath path).destination place := by
  have hstay : stay.destination place = place := by simp [stay, destination]
  rw [ofPath, ← foldl_follow_destination, hstay]

theorem destination_eq_destination_iff {r : Route} {place place' : Location} :
    r.destination place = r.destination place' ↔ place.rdrop r.back = place'.rdrop r.back :=
  List.append_left_inj r.names

end Route

namespace FileTree

variable (t : FileTree)

/-- The place that a path leads to, whether or not anything is there or on the way to it. -/
def place (path : String) : Location := (Path.splitSlash path.toList).foldl follow (t.start path)

variable {t}

/-- The working directory does not count where a path starts from the root. -/
theorem place_of_isAbsolute {t' : FileTree} {path : String} (h : Path.isAbsolute path = true) :
    t.place path = t'.place path := by
  unfold place start
  rw [if_pos h, if_pos h]

theorem eq_foldl_of_walk {start found : Location} {pieces : List (List Char)}
    (h : t.walk start pieces = .ok found) : found = pieces.foldl follow start := by
  induction pieces generalizing start with
  | nil => exact (Except.ok.inj h).symm
  | cons piece pieces ih =>
    rw [walk] at h
    split at h
    case h_1 => cases h
    case h_2 =>
      split at h
      case isTrue => cases h
      case isFalse => exact ih h
    case h_3 => cases h

/-- A path that can be followed through the directories of a tree leads to its place. -/
theorem place_of_locate {path : String} {found : Location} (h : t.locate path = .ok found) :
    t.place path = found := by
  unfold locate at h
  split at h
  · cases h
  · exact (eq_foldl_of_walk h).symm

theorem start_append {front : String} (h : front ≠ "") (back : String) :
    t.start (front ++ back) = t.start front := by
  rw [start, start, Path.isAbsolute_append h]

theorem foldl_follow_inert {place : Location} {pieces : List (List Char)} (h : Path.Inert pieces) :
    pieces.foldl follow place = place := by
  induction pieces with
  | nil => rfl
  | cons piece pieces ih =>
    obtain ⟨hpiece, hrest⟩ := List.forall_mem_cons.1 h
    have hstay : follow place piece = place := if_pos hpiece
    rw [List.foldl_cons, hstay, ih hrest]

theorem foldl_follow_append_slash (place : Location) (s s' : List Char) :
    (Path.splitSlash (s ++ '/' :: s')).foldl follow place =
      (Path.splitSlash s').foldl follow ((Path.splitSlash s).foldl follow place) := by
  rw [Path.splitSlash_append_slash, List.foldl_append]

/-- An absolute path leads to the same place from every base; any other one leads on from the
base. -/
theorem place_join (base path : String) :
    t.place (Path.join base path) =
      if Path.isAbsolute path then t.place path
      else (Route.ofPath path).destination (t.place base) := by
  unfold Path.join
  split
  case isTrue => rfl
  case isFalse hrelative =>
    rw [← Route.foldl_follow]
    by_cases hempty : base = ""
    · subst hempty
      have hstart : t.start path = t.workingDirectory := if_neg hrelative
      have hbase : t.place "" = t.workingDirectory := rfl
      rw [if_pos (by simp), String.empty_append, hbase, place, hstart]
    · by_cases hslash : base.toList.getLast? = some '/'
      · -- The base ends in an empty piece, which stays at its place.
        obtain ⟨front, hfront⟩ := List.getLast?_eq_some_iff.1 hslash
        rw [if_pos (by simp [hslash])]
        unfold place
        rw [start_append hempty, String.toList_append, hfront, List.append_assoc,
          List.singleton_append, foldl_follow_append_slash, foldl_follow_append_slash]
        rfl
      · rw [if_neg (by simp [hempty, hslash]), String.append_assoc]
        unfold place
        rw [start_append hempty, String.toList_append, String.toList_append]
        exact foldl_follow_append_slash _ _ _

/-- From two bases, a path leads to the same place if it is absolute, or if both bases have the same
place as far back as it leads. -/
theorem place_join_eq_iff {t' : FileTree} {base base' path : String} :
    t.place (Path.join base path) = t'.place (Path.join base' path) ↔
      (Path.isAbsolute path = false →
        (t.place base).rdrop (Route.ofPath path).back =
          (t'.place base').rdrop (Route.ofPath path).back) := by
  rw [place_join, place_join]
  cases habsolute : Path.isAbsolute path with
  | true => simpa using place_of_isAbsolute habsolute
  | false => simpa using Route.destination_eq_destination_iff

/-- A file stands in its directory under its name. -/
theorem place_directory {path : String} {name : List Char} (h : Path.fileName? path = some name) :
    t.place path = t.place (Path.directory path) ++ [name] := by
  obtain ⟨front, tail, hsplit, htail, hne, hdot, hdots⟩ := Path.fileName?_eq_some_iff.1 h
  have hbackward : Path.backward path = name :: front.reverse :=
    Path.backward_eq_cons_iff.2 ⟨tail, by rw [hsplit, List.reverse_reverse], htail, hne,
      fun hname => absurd hname hdot⟩
  have hplace : t.place path = front.foldl follow (t.start path) ++ [name] := by
    have hname : follow (front.foldl follow (t.start path)) name =
        front.foldl follow (t.start path) ++ [name] := by
      rw [follow, if_neg (not_or.2 ⟨hne, hdot⟩), if_neg hdots]
    rw [place, hsplit, List.foldl_append, List.foldl_cons, foldl_follow_inert htail, hname]
  rw [hplace, List.append_left_inj, Path.directory]
  rcases Path.parent?_of_backward hbackward with
    ⟨hinert, hparent⟩ | ⟨inert, directories, parent, hfront, hinert, hparent, hpieces, habsolute⟩
  · have hstay : Path.Inert front := fun piece hpiece => hinert piece (List.mem_reverse.2 hpiece)
    rw [foldl_follow_inert hstay, hparent, start]
    split <;> rfl
  · have hstay : Path.Inert inert.reverse := fun piece hpiece =>
      hinert piece (List.mem_reverse.1 hpiece)
    rw [List.reverse_eq_iff.1 hfront, List.reverse_append, List.foldl_append,
      foldl_follow_inert hstay, hparent, Option.getD_some, place, hpieces, start, start, habsolute]

end FileTree

end ShadingGraph
