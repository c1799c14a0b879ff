import BundleLens.FileTree
import BundleLens.Proofs.Outcome

/-! Disks that reading leaves as they are, and trees of files among them: writing a file and reading
it back. A new file may give a directory its first entry, but no directory goes away, so the way to
the file stays open. No other place is touched, since that way has been there before. -/
namespace BundleLens

theorem run_bind_of_run {σ α β : Type} {x : StateM σ α} {a : α} {before after : σ}
    (h : x.run before = (a, after)) (f : α → StateM σ β) :
    (x >>= f).run before = (f a).run after := by
  rw [StateT.run_bind, h]
  rfl

namespace Disk
variable {σ : Type} {disk : Disk (StateM σ)}

def ReadsOnly (disk : Disk (StateM σ)) : Prop :=
  ∀ path state, ∃ content, (disk.read path).run state = (content, state)

def contents (disk : Disk (StateM σ)) (state : σ) (path : String) : Except FileFault ByteArray :=
  ((disk.read path).run state).run.1

private theorem ReadsOnly.read (h : disk.ReadsOnly) (path : String) (state : σ) :
    (disk.read path).run state = (disk.contents state path, state) := by
  obtain ⟨content, read⟩ := h path state
  unfold contents
  rw [read]
  rfl

theorem ReadsOnly.readAll (h : disk.ReadsOnly) (paths : List String) (state : σ) :
    (paths.mapM fun path => do return (path, ← disk.read path)).run state =
      (paths.map fun path => (path, disk.contents state path), state) := by
  induction paths with
  | nil => rfl
  | cons path paths ih =>
    have first : (do return (path, ← disk.read path)).run state =
        ((path, disk.contents state path), state) := run_bind_of_run (h.read path state) _
    rw [List.mapM_cons, run_bind_of_run first, run_bind_of_run ih, List.map_cons]
    rfl

end Disk

namespace FileTree

variable {tree later : FileTree} {place : List String} {content : ByteArray}

private theorem lookup_of_find?_file (h : tree.find? place = some (.file content)) :
    tree.nodes.lookup place = some (.file content) := by
  unfold find? at h
  split at h
  · rename_i node found
    rw [found, h]
  · split at h <;> cases h

private theorem lookup_of_find?_none (h : tree.find? place = none) :
    tree.nodes.lookup place = none := by
  unfold find? at h
  split at h
  · cases h
  · assumption

private theorem find?_of_lookup {node : Node} (h : tree.nodes.lookup place = some node) :
    tree.find? place = some node := by
  unfold find?
  rw [h]

private theorem find?_of_absent (h : tree.nodes.lookup place = none) : tree.find? place =
    if place.isEmpty || tree.nodes.any (place.isPrefixOf ·.1) then some .directory else none := by
  unfold find?
  rw [h]

/-- A tree after a file was written at a place. All that was elsewhere is still there. -/
structure Written (tree later : FileTree) (place : List String) (content : ByteArray) : Prop where
  file : later.find? place = some (.file content)
  rest : ∀ other node, other ≠ place → tree.find? other = some node →
    later.find? other = some node

private theorem lookup_replace (nodes : List (List String × Node)) (other : List String) :
    (nodes.map fun node => if node.1 = place then (place, .file content) else node).lookup other =
      if other = place then (nodes.lookup other).map fun _ => .file content
      else nodes.lookup other := by
  induction nodes with
  | nil => simp
  | cons node nodes ih =>
    obtain ⟨key, value⟩ := node
    rw [List.map_cons, List.lookup_cons]
    by_cases here : key = place
    · subst key
      rw [if_pos rfl, List.lookup_cons, ih]
      by_cases same : other = place
      · subst other
        simp
      · rw [if_neg same, if_neg same, beq_false_of_ne same]
    · rw [if_neg here, List.lookup_cons, ih]
      by_cases same : other = key
      · subst other
        simp [here]
      · rw [beq_false_of_ne same]

private theorem find?_replace {other : List String} (apart : other ≠ place) :
    find? ⟨tree.nodes.map fun node => if node.1 = place then (place, .file content) else node⟩ other =
      tree.find? other := by
  have keys : ((fun entry : List String × Node => other.isPrefixOf entry.1) ∘ fun entry =>
      if entry.1 = place then (place, .file content) else entry) =
        fun entry => other.isPrefixOf entry.1 := by
    funext entry
    by_cases here : entry.1 = place <;> simp [here]
  unfold find?
  rw [lookup_replace, if_neg apart, List.any_map, keys]

private theorem replace_written {old : ByteArray} (found : tree.find? place = some (.file old)) :
    Written tree ⟨tree.nodes.map fun node => if node.1 = place then (place, .file content) else node⟩
      place content where
  file := by
    refine find?_of_lookup ?_
    rw [lookup_replace, if_pos rfl, lookup_of_find?_file found]
    rfl
  rest other node apart h := (find?_replace apart).trans h

private theorem add_written (absent : tree.find? place = none) :
    Written tree ⟨tree.nodes ++ [(place, .file content)]⟩ place content where
  file := by
    refine find?_of_lookup ?_
    rw [List.lookup_append, lookup_of_find?_none absent]
    simp
  rest other node apart h := by
    unfold find? at h ⊢
    rw [List.lookup_append, List.any_append]
    split at h
    · rename_i found
      rw [found]
      exact h
    · rename_i missing
      have elsewhere : [(place, Node.file content)].lookup other = none := by
        simp [List.lookup_cons, beq_false_of_ne apart]
      rw [missing, elsewhere]
      split at h
      · rename_i inside
        rw [← Bool.or_assoc, inside, Bool.true_or]
        exact h
      · cases h

private theorem write_cases {path : String} (h : tree.write path content = .ok later) :
    ∃ place, tree.locate path = .ok place ∧ asksDirectory path = false ∧
      tree.find? place ≠ some .directory ∧ Written tree later place content := by
  unfold write at h
  obtain ⟨place, located, h⟩ := bind_eq_ok_iff.mp h
  refine ⟨place, located, ?_⟩
  split at h
  · cases h
  · rename_i old found
    split at h
    · cases h
    · cases h
      exact ⟨Bool.eq_false_iff.mpr ‹_›, by simp [found], replace_written found⟩
  · rename_i absent
    split at h
    · cases h
    · cases h
      exact ⟨Bool.eq_false_iff.mpr ‹_›, by simp [absent], add_written absent⟩

/-- Names that lead to a place still do so if no directory on the way is gone. -/
private theorem follow_of_directories
    (kept : ∀ other, tree.find? other = some .directory → later.find? other = some .directory)
    {start : List String} {names : List String} (h : tree.follow start names = .ok place) :
    later.follow start names = .ok place := by
  induction names generalizing start with
  | nil => exact h
  | cons name names ih =>
    unfold follow at h ⊢
    split at h
    · rename_i found
      rw [kept _ found]
      dsimp only
      split at h
      · rw [if_pos ‹_›]
        exact ih h
      · rw [if_neg ‹_›]
        exact ih h
    · cases h
    · cases h

theorem read_write {path : String} (h : tree.write path content = .ok later) :
    later.read path = .ok content := by
  obtain ⟨place, located, asked, free, written⟩ := write_cases h
  have kept (other : List String) (directory : tree.find? other = some .directory) :
      later.find? other = some .directory := by
    refine written.rest other _ ?_ directory
    rintro rfl
    exact free directory
  have reached : later.locate path = .ok place := by
    unfold locate at located ⊢
    split at located
    · cases located
    · split at located
      · cases located
      · rw [if_neg ‹_›, if_neg ‹_›]
        exact follow_of_directories kept located
  unfold read
  rw [reached, ok_bind, written.file]
  dsimp only
  rw [asked]
  rfl

/-- Names lead to a place through directories only. -/
private theorem follow_through {start names : List String} (h : tree.follow start names = .ok place)
    (through : ∀ other, other <+: start → other ≠ start → tree.find? other = some .directory) :
    ∀ other, other <+: place → other ≠ place → tree.find? other = some .directory := by
  induction names generalizing start with
  | nil =>
    cases h
    exact through
  | cons name names ih =>
    unfold follow at h
    split at h
    · rename_i here
      split at h
      · refine ih h fun other before apart => ?_
        apply through other (before.trans (List.dropLast_prefix start))
        rintro rfl
        exact apart (before.eq_of_length_le (by simp))
      · refine ih h fun other before apart => ?_
        obtain rfl | before := List.prefix_concat_iff.mp before
        · exact (apart rfl).elim
        · by_cases same : other = start
          · rw [same, here]
          · exact through other before same
    · cases h
    · cases h

private theorem locate_through {path : String} (h : tree.locate path = .ok place) :
    ∀ other, other <+: place → other ≠ place → tree.find? other = some .directory := by
  unfold locate at h
  split at h
  · cases h
  · split at h
    · cases h
    · exact follow_through h fun other before apart => (apart (List.prefix_nil.mp before)).elim

/-- A new file is the first thing in no directory: the one that it lies in is there already. -/
private theorem find?_add {other : List String} (apart : other ≠ place)
    (through : other <+: place → tree.find? other = some .directory) :
    find? ⟨tree.nodes ++ [(place, .file content)]⟩ other = tree.find? other := by
  have elsewhere : [(place, Node.file content)].lookup other = none := by
    simp [List.lookup_cons, beq_false_of_ne apart]
  cases found : tree.nodes.lookup other with
  | some node =>
    have still : (tree.nodes ++ [(place, Node.file content)]).lookup other = some node := by
      rw [List.lookup_append, found, Option.some_or]
    rw [find?_of_lookup found, find?_of_lookup still]
  | none =>
    have absent : (tree.nodes ++ [(place, Node.file content)]).lookup other = none := by
      rw [List.lookup_append, found, elsewhere, Option.or_none]
    rw [find?_of_absent absent, List.any_append]
    by_cases inside : other <+: place
    · rw [through inside]
      simp [List.isPrefixOf_iff_prefix.mpr inside]
    · have unlike : other.isPrefixOf place = false :=
        Bool.eq_false_iff.mpr fun h => inside (List.isPrefixOf_iff_prefix.mp h)
      have outside : [(place, Node.file content)].any (other.isPrefixOf ·.1) = false := by
        simp [unlike]
      rw [find?_of_absent found, outside, Bool.or_false]

private theorem write_elsewhere {path : String} {other : List String}
    (located : tree.locate path = .ok place)
    (h : tree.write path content = .ok later) (apart : other ≠ place) :
    later.find? other = tree.find? other := by
  unfold write at h
  rw [located, ok_bind] at h
  split at h
  · cases h
  · split at h
    · cases h
    · cases h
      exact find?_replace apart
  · split at h
    · cases h
    · cases h
      exact find?_add apart fun inside => locate_through located other inside apart

/-- A path that a file can be written at: it leads to a place that is no directory, and it does not
ask for one. -/
def Writable (tree : FileTree) (path : String) : Prop :=
  asksDirectory path = false ∧ ∃ place, tree.locate path = .ok place ∧
    tree.find? place ≠ some .directory

private theorem exists_write_iff (tree : FileTree) (path : String) (content : ByteArray) :
    (∃ later, tree.write path content = .ok later) ↔ tree.Writable path := by
  constructor
  · rintro ⟨later, h⟩
    obtain ⟨place, located, asked, free, -⟩ := write_cases h
    exact ⟨asked, place, located, free⟩
  · rintro ⟨asked, place, located, free⟩
    unfold write
    rw [located, ok_bind, asked]
    cases found : tree.find? place with
    | none => exact ⟨_, rfl⟩
    | some node =>
      cases node with
      | file old => exact ⟨_, rfl⟩
      | directory => exact (free found).elim

/-- A tree after a file was written at a path. No other file and no directory is touched. -/
structure Rewritten (tree later : FileTree) (path : String) (content : ByteArray) : Prop where
  read : later.read path = .ok content
  elsewhere : ∃ place, tree.locate path = .ok place ∧
    ∀ other, other ≠ place → later.find? other = tree.find? other

private theorem write_rewritten {path : String} (h : tree.write path content = .ok later) :
    tree.Rewritten later path content := by
  obtain ⟨place, located, -⟩ := write_cases h
  exact ⟨read_write h, place, located, fun _ apart => write_elsewhere located h apart⟩

private theorem disk_read (tree : FileTree) (path : String) :
    (disk.read path).run tree = (tree.read path, tree) := rfl

theorem disk_readsOnly : disk.ReadsOnly := fun path tree => ⟨tree.read path, disk_read tree path⟩

theorem disk_contents (tree : FileTree) : disk.contents tree = tree.read := rfl

/-- A write changes the tree if it succeeds, and only then. -/
theorem disk_write (tree : FileTree) (path : String) (content : ByteArray) :
    (disk.write path content).run tree =
      match tree.write path content with
      | .ok later => (.ok (), later)
      | .error fault => (.error fault, tree) := by
  unfold disk
  cases h : tree.write path content with
  | ok later =>
    simp only [StateT.run_bind, StateT.run_get, pure_bind, h]
    rfl
  | error fault =>
    simp only [StateT.run_bind, StateT.run_get, pure_bind, h]
    rfl

/-- A write either does what was asked for or changes nothing. -/
theorem disk_write_cases (tree : FileTree) (path : String) (content : ByteArray) :
    (tree.Writable path ∧ ∃ later, (disk.write path content).run tree = (.ok (), later) ∧
      tree.Rewritten later path content) ∨
    (¬ tree.Writable path ∧ ∃ fault, (disk.write path content).run tree = (.error fault, tree)) := by
  rw [disk_write, ← exists_write_iff tree path content]
  cases h : tree.write path content with
  | ok later => exact .inl ⟨⟨later, rfl⟩, later, rfl, write_rewritten h⟩
  | error fault => exact .inr ⟨nofun, fault, rfl⟩

end FileTree

end BundleLens
