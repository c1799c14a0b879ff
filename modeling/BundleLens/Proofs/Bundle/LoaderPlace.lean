import BundleLens.Proofs.Bundle.ChunkGrammar

/-! The two places of a loader: the one that an accepted chunk writes and the one that it reads.
Each is checked by itself, so both are properties of the loader's name, but the words for the global
object before that name may differ. -/
namespace BundleLens.Bundle.Chunk
open Script

inductive GlobalWord where
  | window
  | self
  | global
  | globalThis
  | this
  deriving DecidableEq

def GlobalWord.name? : GlobalWord → Option String
  | window => some "window"
  | self => some "self"
  | global => some "global"
  | globalThis => some "globalThis"
  | this => none

structure Place where
  word : GlobalWord
  property : String

/-- The object and the property that a place is in a running script, in which each word denotes an
object. Objects are told apart by a number. -/
def Place.location (place : Place) (denotes : GlobalWord → Nat) : Nat × String :=
  (denotes place.word, place.property)

inductive WordOf (word : GlobalWord) : Expr → Prop
  | identifier (span : Span) {name : String} :
      word.name? = some name → WordOf word (.identifier span name)
  | this (span : Span) : word.name? = none → WordOf word (.this span)

inductive PlaceOf : Place → Expr → Prop
  | member (span : Span) {word : GlobalWord} {object : Expr} (name : String) :
      Enclosed (WordOf word) object → PlaceOf ⟨word, name⟩ (.member span object name)
  | index (span : Span) {word : GlobalWord} {object key : Expr} {name : String} :
      Enclosed (WordOf word) object → Enclosed (StringOf name) key →
        PlaceOf ⟨word, name⟩ (.index span object key)

inductive Reads (read : Place) : Expr → Prop
  | or (span : Span) {left : Expr} (right : Expr) :
      Enclosed (PlaceOf read) left → Reads read (.logical span .or left right)

inductive Initializes (written read : Place) : Expr → Prop
  | assign (span : Span) {target value : Expr} :
      PlaceOf written target → Enclosed (Reads read) value →
        Initializes written read (.assign span .plain target value)

/-- The `push` method of what is assigned to one place: what another place holds, or a fallback. -/
inductive Registers (written read : Place) : Expr → Prop
  | member (span : Span) {object : Expr} :
      Enclosed (Initializes written read) object →
        Registers written read (.member span object "push")
  | index (span : Span) {object key : Expr} :
      Enclosed (Initializes written read) object → Enclosed (StringOf "push") key →
        Registers written read (.index span object key)

inductive IsAccess : Expr → Prop
  | member (span : Span) (object : Expr) (name : String) : IsAccess (.member span object name)
  | index (span : Span) (object key : Expr) : IsAccess (.index span object key)

variable {loader : String} {e : Expr} {written read written' read' : Place}

private theorem enclosed_globalObject_iff :
    Enclosed GlobalObject e ↔ ∃ word, Enclosed (WordOf word) e := by
  have bare (word : GlobalWord) : Enclosed (WordOf word) e ↔ WordOf word e.bare :=
    Enclosed.iff_bare nofun
  simp only [bare]
  rw [Enclosed.iff_bare nofun]
  generalize e.bare = bare
  constructor
  · rintro (⟨span⟩ | ⟨span⟩ | ⟨span⟩ | ⟨span⟩ | ⟨span⟩)
    · exact ⟨.window, .identifier span rfl⟩
    · exact ⟨.self, .identifier span rfl⟩
    · exact ⟨.global, .identifier span rfl⟩
    · exact ⟨.globalThis, .identifier span rfl⟩
    · exact ⟨.this, .this span rfl⟩
  · rintro ⟨word, (⟨span, named⟩ | ⟨span, -⟩)⟩
    · cases word with
      | window =>
        cases named
        exact .window span
      | self =>
        cases named
        exact .self span
      | global =>
        cases named
        exact .global span
      | globalThis =>
        cases named
        exact .globalThis span
      | this => cases named
    · exact .this span

/-- A slot is the place of the loader under some word. -/
theorem slot_iff : Slot loader e ↔ ∃ word, PlaceOf ⟨word, loader⟩ e := by
  constructor
  · rintro (⟨span, object⟩ | ⟨span, object, key⟩)
    · obtain ⟨word, object⟩ := enclosed_globalObject_iff.mp object
      exact ⟨word, .member span loader object⟩
    · obtain ⟨word, object⟩ := enclosed_globalObject_iff.mp object
      exact ⟨word, .index span object key⟩
  · rintro ⟨word, (⟨span, -, object⟩ | ⟨span, object, key⟩)⟩
    · exact .member span (enclosed_globalObject_iff.mpr ⟨word, object⟩)
    · exact .index span (enclosed_globalObject_iff.mpr ⟨word, object⟩) key

private theorem enclosed_fallback_iff :
    Enclosed (Fallback loader) e ↔ ∃ word, Enclosed (Reads ⟨word, loader⟩) e := by
  have bare (word : GlobalWord) :
      Enclosed (Reads ⟨word, loader⟩) e ↔ Reads ⟨word, loader⟩ e.bare := Enclosed.iff_bare nofun
  simp only [bare]
  rw [Enclosed.iff_bare nofun]
  generalize e.bare = bare
  constructor
  · rintro ⟨span, right, slot⟩
    rw [Enclosed.iff_bare nofun] at slot
    obtain ⟨word, place⟩ := slot_iff.mp slot
    exact ⟨word, .or span right ((Enclosed.iff_bare nofun).mpr place)⟩
  · rintro ⟨word, span, right, place⟩
    rw [Enclosed.iff_bare nofun] at place
    exact .or span right ((Enclosed.iff_bare nofun).mpr (slot_iff.mpr ⟨word, place⟩))

private theorem enclosed_loaderInit_iff : Enclosed (LoaderInit loader) e ↔
    ∃ word word', Enclosed (Initializes ⟨word, loader⟩ ⟨word', loader⟩) e := by
  have bare (word word' : GlobalWord) :
      Enclosed (Initializes ⟨word, loader⟩ ⟨word', loader⟩) e ↔
        Initializes ⟨word, loader⟩ ⟨word', loader⟩ e.bare := Enclosed.iff_bare nofun
  simp only [bare]
  rw [Enclosed.iff_bare nofun]
  generalize e.bare = bare
  constructor
  · rintro ⟨span, target, value⟩
    obtain ⟨word, target⟩ := slot_iff.mp target
    obtain ⟨word', value⟩ := enclosed_fallback_iff.mp value
    exact ⟨word, word', .assign span target value⟩
  · rintro ⟨word, word', span, target, value⟩
    exact .assign span (slot_iff.mpr ⟨word, target⟩) (enclosed_fallback_iff.mpr ⟨word', value⟩)

/-- The callees of chunks that access a property are those that register at two places of the
loader, under any two words. -/
theorem access_callee_iff :
    (Enclosed (LoaderCallee loader) e ∧ Enclosed IsAccess e) ↔
      ∃ word word', Enclosed (Registers ⟨word, loader⟩ ⟨word', loader⟩) e := by
  have bare (word word' : GlobalWord) :
      Enclosed (Registers ⟨word, loader⟩ ⟨word', loader⟩) e ↔
        Registers ⟨word, loader⟩ ⟨word', loader⟩ e.bare := Enclosed.iff_bare nofun
  simp only [bare]
  rw [Enclosed.iff_bare nofun, Enclosed.iff_bare nofun]
  generalize e.bare = bare
  constructor
  · rintro ⟨⟨span⟩ | ⟨span, init⟩ | ⟨span, init, key⟩, access⟩
    · nomatch access
    · obtain ⟨word, word', init⟩ := enclosed_loaderInit_iff.mp init
      exact ⟨word, word', .member span init⟩
    · obtain ⟨word, word', init⟩ := enclosed_loaderInit_iff.mp init
      exact ⟨word, word', .index span init key⟩
  · rintro ⟨word, word', (⟨span, init⟩ | ⟨span, init, key⟩)⟩
    · exact ⟨.member span (enclosed_loaderInit_iff.mpr ⟨word, word', init⟩), .member ..⟩
    · exact ⟨.index span (enclosed_loaderInit_iff.mpr ⟨word, word', init⟩) key, .index ..⟩

private theorem Enclosed.agree {form form' : Expr → Prop} {P : Prop}
    (unwrapped : ∀ span inner, ¬ form (.paren span inner))
    (unwrapped' : ∀ span inner, ¬ form' (.paren span inner))
    (agree : ∀ e, form e → form' e → P) (h : Enclosed form e) (h' : Enclosed form' e) : P :=
  agree e.bare ((Enclosed.iff_bare unwrapped).mp h) ((Enclosed.iff_bare unwrapped').mp h')

private theorem GlobalWord.name?_injective {word word' : GlobalWord}
    (h : word.name? = word'.name?) :
    word = word' := by
  cases word <;> cases word' <;> first | rfl | simp [name?] at h

private theorem WordOf.unique {word word' : GlobalWord} (h : WordOf word e) (h' : WordOf word' e) :
    word = word' := by
  apply GlobalWord.name?_injective
  cases h with
  | identifier span named =>
    obtain ⟨_, named'⟩ := h'
    exact named.trans named'.symm
  | this span named =>
    obtain _ | ⟨_, named'⟩ := h'
    exact named.trans named'.symm

private theorem PlaceOf.unique (h : PlaceOf written e) (h' : PlaceOf read e) : written = read := by
  cases h with
  | member span name object =>
    obtain ⟨_, _, object'⟩ := h'
    rw [Enclosed.agree nofun nofun (fun _ => WordOf.unique) object object']
  | index span object key =>
    obtain _ | ⟨_, object', key'⟩ := h'
    have names {text text' : String} (e : Expr) (s : StringOf text e) (s' : StringOf text' e) :
        text = text' := by
      cases s
      cases s'
      rfl
    rw [Enclosed.agree nofun nofun (fun _ => WordOf.unique) object object',
      Enclosed.agree nofun nofun names key key']

private theorem Initializes.unique (h : Initializes written read e)
    (h' : Initializes written' read' e) :
    written = written' ∧ read = read' := by
  obtain ⟨span, target, value⟩ := h
  obtain ⟨_, target', value'⟩ := h'
  refine ⟨target.unique target', ?_⟩
  refine Enclosed.agree nofun nofun (fun e r r' => ?_) value value'
  obtain ⟨_, _, place⟩ := r
  obtain ⟨_, _, place'⟩ := r'
  exact Enclosed.agree nofun nofun (fun _ => PlaceOf.unique) place place'

private theorem Registers.unique (h : Registers written read e) (h' : Registers written' read' e) :
    written = written' ∧ read = read' := by
  cases h with
  | member span init =>
    obtain ⟨_, init'⟩ := h'
    exact Enclosed.agree nofun nofun (fun _ => Initializes.unique) init init'
  | index span init key =>
    obtain _ | ⟨_, init', _⟩ := h'
    exact Enclosed.agree nofun nofun (fun _ => Initializes.unique) init init'

/-- Places are one location whatever the words denote only if they have one word. -/
theorem Place.location_always_eq_iff :
    (∀ denotes, written.location denotes = read.location denotes) ↔ written = read := by
  constructor
  · intro always
    obtain ⟨word, property⟩ := written
    obtain ⟨word', property'⟩ := read
    -- let the first word denote an object of its own
    have apart := always fun other => if other = word then 0 else 1
    simp only [location, if_true, Prod.mk.injEq] at apart
    obtain ⟨object, property⟩ := apart
    by_cases same : word' = word
    · rw [same, property]
    · simp [same] at object
  · rintro rfl _
    rfl

variable {call : Call} {o : Options} {found : Detection}

/-- The words of an accepted callee can be changed. -/
theorem detect_callee_changed {callee : Expr} (accepted : (detect call o).outcome = .ok found)
    (loads : Enclosed (LoaderCallee o.chunkGlobal) callee) :
    (detect { call with callee } o).outcome = .ok found := by
  obtain ⟨format, entry, chunk, choice⟩ := detect_ok_iff.mp accepted
  exact detect_ok_iff.mpr ⟨format, entry, ⟨loads, chunk.slots⟩, choice⟩

/-- An accepted chunk that is no call of the loader's name writes one place and reads one, and both
are properties of the loader's name. They are the same, at run time too, exactly if the words for
the global object are. Detection does not ask for that: the same chunk is found under any two
words. -/
theorem written_place_read_iff (accepted : (detect call o).outcome = .ok found)
    (access : Enclosed IsAccess call.callee) :
    ∃ written read, Enclosed (Registers written read) call.callee ∧
      (∀ written' read', Enclosed (Registers written' read') call.callee →
        written' = written ∧ read' = read) ∧
      written.property = o.chunkGlobal ∧ read.property = o.chunkGlobal ∧
      ((∀ denotes, written.location denotes = read.location denotes) ↔
        written.word = read.word) ∧
      ∀ word word' callee,
        Enclosed (Registers ⟨word, o.chunkGlobal⟩ ⟨word', o.chunkGlobal⟩) callee →
          (detect { call with callee } o).outcome = .ok found := by
  obtain ⟨-, entry, chunk, -⟩ := detect_ok_iff.mp accepted
  obtain ⟨word, word', registers⟩ := access_callee_iff.mp ⟨chunk.callee, access⟩
  refine ⟨_, _, registers, fun written' read' other => ?_, rfl, rfl, ?_, fun word word' callee h => ?_⟩
  · exact Enclosed.agree nofun nofun (fun _ => Registers.unique) other registers
  · rw [Place.location_always_eq_iff, Place.mk.injEq]
    exact and_iff_left rfl
  · exact detect_callee_changed accepted (access_callee_iff.mpr ⟨word, word', h⟩).1

/-- A chunk that keeps the loader in `window`, read there by a string. -/
theorem written_place_read_iff_window :
    let s : Span := default
    let window : Expr := .identifier s "window"
    let object : Expr := .assign s .plain (.member s window "f")
      (.logical s .or (.index s window (.string s "f")) (.array s []))
    let argument : Expr := .array s [.hole s, .item (.array s []), .hole s]
    let call : Call := ⟨s, .member s (.paren s object) "push", [.item argument]⟩
    ∃ found, (detect call ⟨none, none, "f"⟩).outcome = .ok found ∧ Enclosed IsAccess call.callee ∧
      ∃ written read, Enclosed (Registers written read) call.callee ∧
        ((∀ denotes, written.location denotes = read.location denotes) ↔
          written.word = read.word) := by
  intro s window object argument call
  obtain ⟨found, accepted, -⟩ : ∃ found, (detect call ⟨none, none, "f"⟩).outcome = .ok found ∧
      found.entry = none := exists_ok (by decide +kernel)
  have access : Enclosed IsAccess call.callee := .plain (.member ..)
  obtain ⟨written, read, registers, -, -, -, same, -⟩ := written_place_read_iff accepted access
  exact ⟨found, accepted, access, written, read, registers, same⟩

/-- A chunk that writes the loader to `window` and reads it from `self` is accepted too. -/
theorem mixed_words_accepted :
    let s : Span := default
    let object : Expr := .assign s .plain (.member s (.identifier s "window") "f")
      (.logical s .or (.member s (.identifier s "self") "f") (.array s []))
    let argument : Expr := .array s [.hole s, .item (.array s []), .hole s]
    let call : Call := ⟨s, .member s (.paren s object) "push", [.item argument]⟩
    (∃ found, (detect call ⟨none, none, "f"⟩).outcome = .ok found ∧ found.format = .chunk) ∧
      Enclosed (Registers ⟨.window, "f"⟩ ⟨.self, "f"⟩) call.callee := by
  intro s object argument call
  have written : PlaceOf ⟨.window, "f"⟩ (.member s (.identifier s "window") "f") :=
    .member s "f" (.plain (.identifier s rfl))
  have read : PlaceOf ⟨.self, "f"⟩ (.member s (.identifier s "self") "f") :=
    .member s "f" (.plain (.identifier s rfl))
  have initializes : Initializes ⟨.window, "f"⟩ ⟨.self, "f"⟩ object :=
    .assign s written (.plain (.or s _ (.plain read)))
  exact ⟨exists_ok (by decide +kernel), .plain (.member s (.paren s (.plain initializes)))⟩

end BundleLens.Bundle.Chunk
