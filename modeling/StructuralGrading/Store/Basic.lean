import StructuralGrading.Order.Sorted
import StructuralGrading.Text.OsText

/-!
# Stores

A store is a tree of files and folders, each at its location, the list of the names on the way to it
from the top.  Whatever is in a store lies in a folder of the store, and one of the folders is the
working folder.  In which order a folder lists what is in it is up to the store.  There are no links
in a store, and no rights to what is in it: whatever a path leads to can be read and changed.

* `Store.get?` tells what is at a location; the top folder is at the empty one.
* `Store.put` and `Store.remove` change a store, and `get?_put_self`, `get?_put_ne` and
  `get?_remove` say what they do to `get?`.
* `Store.names` and `Store.below` list what is in a folder.
-/

namespace StructuralGrading

/-- The names on the way from the top. -/
abbrev Location := List OsText

/-- What can be at a location. -/
inductive Entry where
  | file (content : ByteArray)
  | folder

namespace Entry

/-- The content of a file. -/
def content? : Entry → Option (Array UInt8)
  | file content => some content.data
  | folder => none

theorem content?_injective {e f : Entry} (h : e.content? = f.content?) : e = f := by
  match e, f with
  | file ⟨_⟩, file ⟨_⟩ => simpa [content?] using h
  | folder, folder => rfl

instance : DecidableEq Entry := fun _ _ =>
  decidable_of_decidable_of_iff ⟨content?_injective, congrArg content?⟩

end Entry

/-- What is at a location, given what is at all locations but the empty one. -/
def entryAt? (entries : SortedMap Location Entry) (loc : Location) : Option Entry :=
  if loc = [] then some .folder else entries.get? loc

/-- In which order the names in a folder are listed. -/
structure Listing where
  order : Location → List OsText → List OsText
  /-- Every name is listed, and nothing else. -/
  perm : ∀ loc names, (order loc names).Perm names

/-- Names are listed as they come. -/
def Listing.plain : Listing := ⟨fun _ names => names, fun _ _ => .refl _⟩

/-- A tree of files and folders. -/
structure Store where
  entries : SortedMap Location Entry
  /-- Whatever there is lies in a folder. -/
  closed : ∀ loc : Location, (entries.get? loc).isSome →
    entryAt? entries loc.dropLast = some .folder
  /-- Where paths start that do not start at the top. -/
  working : Location
  working_folder : entryAt? entries working = some .folder
  listing : Listing

namespace Store

/-- The store with nothing but the top folder. -/
def empty : Store := ⟨.empty, nofun, [], rfl, .plain⟩

/-- What is at a location. -/
def get? (s : Store) (loc : Location) : Option Entry := entryAt? s.entries loc

@[simp] theorem get?_nil (s : Store) : s.get? [] = some .folder := rfl

theorem get?_dropLast {s : Store} {loc : Location} {e : Entry} (h : s.get? loc = some e) :
    s.get? loc.dropLast = some .folder := by
  by_cases top : loc = []
  · subst top; rfl
  · refine s.closed loc ?_
    rw [get?, entryAt?, if_neg top] at h
    rw [h, Option.isSome_some]

/-! ### Changing a store -/

theorem closed_insert {s : Store} {folder : Location} {name : OsText} {e : Entry}
    (parent : s.get? folder = some .folder)
    (vacant : s.get? (folder ++ [name]) ≠ some .folder) (loc : Location)
    (h : ((s.entries.insert (folder ++ [name]) e).get? loc).isSome) :
    entryAt? (s.entries.insert (folder ++ [name]) e) loc.dropLast = some .folder := by
  have unchanged : ∀ l : Location, l ≠ folder ++ [name] →
      entryAt? (s.entries.insert (folder ++ [name]) e) l = s.get? l := by
    intro l hl
    simp only [entryAt?, get?, SortedMap.get?_insert_ne _ _ hl]
  by_cases here : loc = folder ++ [name]
  · subst here
    rw [List.dropLast_concat, unchanged _ (by simp), parent]
  · rw [SortedMap.get?_insert_ne _ _ here] at h
    have above := s.closed loc h
    rw [unchanged _ fun same => vacant (same ▸ above), get?, above]

theorem folder_insert {s : Store} {loc l : Location} {e : Entry}
    (vacant : s.get? loc ≠ some .folder) (h : s.get? l = some .folder) :
    entryAt? (s.entries.insert loc e) l = some .folder := by
  have hne : l ≠ loc := fun same => vacant (same ▸ h)
  rw [entryAt?, SortedMap.get?_insert_ne _ _ hne]
  exact h

/-- Puts an entry into a folder, instead of the file with its name.  Nothing changes if the folder
does not exist or already has a folder with that name. -/
def put (s : Store) (folder : Location) (name : OsText) (e : Entry) : Store :=
  if h : s.get? folder = some .folder ∧ s.get? (folder ++ [name]) ≠ some .folder then
    { s with
      entries := s.entries.insert (folder ++ [name]) e
      closed := closed_insert h.1 h.2
      working_folder := folder_insert h.2 s.working_folder }
  else s

theorem get?_put_self {s : Store} {folder : Location} {name : OsText} (e : Entry)
    (parent : s.get? folder = some .folder)
    (vacant : s.get? (folder ++ [name]) ≠ some .folder) :
    (s.put folder name e).get? (folder ++ [name]) = some e := by
  rw [put, dif_pos ⟨parent, vacant⟩]
  simp [get?, entryAt?]

theorem get?_put_ne (s : Store) {folder loc : Location} {name : OsText} (e : Entry)
    (h : loc ≠ folder ++ [name]) : (s.put folder name e).get? loc = s.get? loc := by
  rw [put]
  split
  · simp only [get?, entryAt?, SortedMap.get?_insert_ne _ _ h]
  · rfl

theorem closed_filter (s : Store) (loc l : Location)
    (h : ((s.entries.filter fun k => !loc.isPrefixOf k).get? l).isSome) :
    entryAt? (s.entries.filter fun k => !loc.isPrefixOf k) l.dropLast = some .folder := by
  rw [SortedMap.get?_filter] at h
  split at h
  · rename_i kept
    have above := s.closed l h
    rw [entryAt?] at above ⊢
    split at above
    · rw [if_pos ‹_›]
    · rw [if_neg ‹_›, SortedMap.get?_filter, if_pos, above]
      simp only [Bool.not_eq_true', ← Bool.not_eq_true, List.isPrefixOf_iff_prefix] at kept ⊢
      exact fun pre => kept (pre.trans (List.dropLast_prefix l))
  · simp at h

theorem folder_filter {s : Store} {loc l : Location} (apart : loc.isPrefixOf l = false)
    (h : s.get? l = some .folder) :
    entryAt? (s.entries.filter fun k => !loc.isPrefixOf k) l = some .folder := by
  rw [get?, entryAt?] at h
  rw [entryAt?, SortedMap.get?_filter, apart]
  exact h

/-- Takes away what is at a location, with all that is below it.  The working folder cannot be taken
away. -/
def remove (s : Store) (loc : Location) : Store :=
  if apart : loc.isPrefixOf s.working = false then
    { s with
      entries := s.entries.filter fun k => !loc.isPrefixOf k
      closed := closed_filter s loc
      working_folder := folder_filter apart s.working_folder }
  else s

theorem get?_remove (s : Store) (loc l : Location) (h : l ≠ []) (apart : ¬loc <+: s.working) :
    (s.remove loc).get? l = if loc <+: l then none else s.get? l := by
  have apart' : loc.isPrefixOf s.working = false := by
    rw [← Bool.not_eq_true, List.isPrefixOf_iff_prefix]
    exact apart
  rw [remove, dif_pos apart']
  simp only [get?, entryAt?, if_neg h, SortedMap.get?_filter]
  by_cases pre : loc <+: l
  · rw [if_pos pre, List.isPrefixOf_iff_prefix.2 pre, Bool.not_true, if_neg Bool.false_ne_true]
  · rw [if_neg pre, if_pos]
    rw [Bool.not_eq_true', ← Bool.not_eq_true, List.isPrefixOf_iff_prefix]
    exact pre

/-- Goes to work in a folder, if it is there. -/
def workIn (s : Store) (loc : Location) : Store :=
  if h : s.get? loc = some .folder then { s with working := loc, working_folder := h } else s

/-! ### Folders -/

/-- Everything below a folder with its location from there, a folder before what is in it. -/
def below (s : Store) (folder : Location) : List (Location × Entry) :=
  s.entries.entries.filterMap fun e =>
    match folder.isPrefixOf? e.1 with
    | some [] => none
    | some rest => some (rest, e.2)
    | none => none

/-- The names of what is directly in a folder, in order. -/
def names (s : Store) (folder : Location) : List OsText :=
  s.entries.keys.filterMap fun k =>
    match folder.isPrefixOf? k with
    | some [name] => some name
    | _ => none

end Store

end StructuralGrading
