import Landscape.Host.Basic

/-!
# What a step answers, and what it leaves

A step keeps books: it notes what it asked and what it told. Whoever wants to know what comes out of a step does
not care for the books, so a step is described here as it looks through a view of the states
(`Landscape.Step.Answers`): from all states that look the same it answers the same and leaves states that look
the same. Such descriptions are put together like the steps themselves (`Landscape.Step.Answers.bind`).

The view of a host is its world, which is all of it but the books (`Landscape.Host.world`). Most steps only read
there (`Landscape.Host.Reads`).
-/

namespace Landscape

/-! ### Steps through a view -/

namespace Step

variable {ε ε' σ τ ν ν' α β : Type}

/-- **What a step answers, seen through a view**: from each state that looks like `x` it answers `r`, and it leaves a
state that looks like `y`. -/
def Answers (view : σ → ν) (act : Step ε σ α) (x : ν) (r : Except ε α) (y : ν) : Prop :=
  ∀ s, view s = x → (act.run s).1 = r ∧ view (act.run s).2 = y

variable {view : σ → ν} {act : Step ε σ α} {next : α → Step ε σ β} {x y z : ν}

/-- What a step answers, and a state it leaves. -/
theorem Answers.exists_run {r : Except ε α} {s : σ} (h : Answers view act x r y) (hs : view s = x) :
    ∃ t, act.run s = (r, t) ∧ view t = y := by
  obtain ⟨hr, hy⟩ := h s hs
  exact ⟨(act.run s).2, Prod.ext hr rfl, hy⟩

theorem answers_of (r : Except ε α) : Answers view (of r) x r x :=
  fun _ hs => ⟨rfl, hs⟩

theorem answers_pure (a : α) : Answers view (pure a : Step ε σ α) x (.ok a) x :=
  answers_of _

theorem answers_throw (e : ε) : Answers view (throw e : Step ε σ α) x (.error e) x :=
  answers_of _

theorem answers_modify {f : σ → σ} (h : ∀ s, view s = x → view (f s) = y) :
    Answers view (modify f : Step ε σ PUnit) x (.ok ()) y :=
  fun s hs => ⟨rfl, h s hs⟩

/-- **One step after the other**, if the first answers. -/
theorem Answers.bind {a : α} {r : Except ε β} (h : Answers view act x (.ok a) y)
    (h' : Answers view (next a) y r z) : Answers view (act >>= next) x r z := by
  intro s hs
  obtain ⟨hr, hy⟩ := h s hs
  rw [run_bind_of_ok (Prod.ext hr rfl)]
  exact h' _ hy

/-- One step after the other, if the first fails. -/
theorem Answers.bind_error {e : ε} (h : Answers view act x (.error e) y) :
    Answers view (act >>= next) x (.error e) y := by
  intro s hs
  obtain ⟨hr, hy⟩ := h s hs
  rw [run_bind_of_error (Prod.ext hr rfl)]
  exact ⟨rfl, hy⟩

/-- A step that looks at the state first. -/
theorem answers_get_bind {next : σ → Step ε σ β} {r : Except ε β}
    (h : ∀ s, view s = x → Answers view (next s) x r y) : Answers view (get >>= next) x r y :=
  fun s hs => h s hs s hs

theorem Answers.blame {r : Except ε α} (h : Answers view act x r y) (f : ε → ε') :
    Answers view (act.blame f) x (r.mapError f) y := by
  intro s hs
  obtain ⟨hr, hy⟩ := h s hs
  exact ⟨by rw [run_blame, hr], hy⟩

/-- A step on a part of the state, if the view of the whole shows what the view of the part shows. -/
theorem Answers.within {view' : τ → ν'} {part : σ → τ} {put : τ → σ → σ} {act : Step ε τ α}
    {x' y' : ν'} {r : Except ε α} (h : Answers view' act x' r y')
    (hpart : ∀ s, view s = x → view' (part s) = x')
    (hput : ∀ t s, view s = x → view' t = y' → view (put t s) = y) :
    Answers view (act.within part put) x r y := by
  intro s hs
  obtain ⟨hr, hy⟩ := h _ (hpart s hs)
  exact ⟨hr, hput _ s hs hy⟩

end Step

/-! ### Worlds -/

namespace Host

variable {ε ε' α β : Type} {w : Host}

/-- **The world of a host**: the host without its books. -/
def world (h : Host) : Host :=
  { h with requests := [], notes := [] }

theorem files_eq_of_world {h h' : Host} (hw : h.world = h'.world) : h.files = h'.files := by
  have hfiles : h.world.files = h'.world.files := by rw [hw]
  exact hfiles

theorem here_eq_of_world {h h' : Host} (hw : h.world = h'.world) : h.here = h'.here := by
  have hhere : h.world.here = h'.world.here := by rw [hw]
  exact hhere

/-- A step that **only reads**: in all hosts of the world of `w` it answers `r` and leaves this world as it is. -/
def Reads (act : Step ε Host α) (w : Host) (r : Except ε α) : Prop :=
  act.Answers world w.world r w.world

/-- What a step answers that only reads. -/
theorem Reads.run_eq {act : Step ε Host α} {r : Except ε α} (h : Reads act w r) : (act.run w).1 = r :=
  (h w rfl).1

/-- What one step reads, and what another then does. -/
theorem Reads.bind {act : Step ε Host α} {next : α → Step ε Host β} {a : α} {r : Except ε β}
    (h : Reads act w (.ok a)) (h' : Reads (next a) w r) : Reads (act >>= next) w r :=
  Step.Answers.bind h h'

/-- What two steps read, one after the other. -/
theorem Reads.bind_result {act : Step ε Host α} {next : α → Step ε Host β} {r : Except ε α} {g : α → Except ε β}
    (h : Reads act w r) (h' : ∀ a, Reads (next a) w (g a)) : Reads (act >>= next) w (r >>= g) := by
  cases r with
  | error e => exact Step.Answers.bind_error h
  | ok a => exact h.bind (h' a)

/-- What is read and passed on. -/
theorem Reads.bind_passing {act : Step ε Host α} {next : α → Step ε Host α} {r : Except ε α} (h : Reads act w r)
    (h' : ∀ a, Reads (next a) w (.ok a)) : Reads (act >>= next) w r := by
  cases r with
  | error e => exact Step.Answers.bind_error h
  | ok a => exact h.bind (h' a)

/-- A step that looks at the host first, but not into its books. -/
theorem reads_get_bind {next : Host → Step ε Host β} {r : Except ε β}
    (hnext : ∀ h, next h = next h.world) (h : Reads (next w.world) w r) :
    Reads (get >>= next) w r := by
  refine Step.answers_get_bind fun s hs => ?_
  rw [hnext, hs]
  exact h

theorem reads_of (r : Except ε α) : Reads (Step.of r) w r :=
  Step.answers_of r

/-! ### Notes and requests -/

theorem reads_note (level : Level) (origin : Origin) (text : String) :
    Reads (note level origin text : Step ε Host Unit) w (.ok ()) :=
  Step.answers_modify fun _ hs => hs

theorem reads_ask (r : Request) : Reads (ask r : Step ε Host Unit) w (.ok ()) :=
  Step.answers_modify fun _ hs => hs

/-! ### Programs and services -/

theorem reads_draw (engine format source : String) :
    Reads (draw engine format source : Step ε Host LayoutOutcome) w (.ok w.draws) :=
  (reads_ask _).bind (reads_get_bind (fun _ => rfl) (Step.answers_pure _))

/-! ### Looking for files -/

theorem reads_absolute (p : FilePath) :
    Reads (absolute p : Step ε Host FilePath) w (.ok (w.directory.join p)) :=
  reads_get_bind (fun _ => rfl) (Step.answers_pure _)

/-- What is found at a path: nothing, if the path is none. -/
def found (w : Host) (p : FilePath) : Except AccessFault (Option Entry) :=
  if (unusable? p).isSome then .ok none else (w.files.entry? w.here p).mapError .file

theorem reads_found (p : FilePath) : Reads (Host.entry? p) w (w.found p) := by
  refine reads_get_bind (fun _ => rfl) ?_
  rw [found]
  split
  · exact Step.answers_pure _
  · exact reads_of _

/-- What a file holds, or why it cannot be read. -/
def contents (w : Host) (p : FilePath) : Except AccessFault (List UInt8) :=
  match unusable? p with
  | some f => .error f
  | none => (w.files.read w.here p).mapError .file

/-- What is found has been reached. -/
theorem exists_follow_of_found {p : FilePath} {e : Entry} (h : w.found p = .ok (some e)) :
    unusable? p = none ∧ ∃ place, w.files.follow w.here p = .ok (place, some e) := by
  rw [found] at h
  split at h
  · cases h
  next hp =>
    refine ⟨by simpa using hp, ?_⟩
    rw [FileSystem.entry?] at h
    rcases hfollow : w.files.follow w.here p with f | ⟨place, e'⟩
    · -- the path leads nowhere, or is refused
      rw [hfollow] at h
      dsimp only at h
      split at h
      · cases h
      · cases h
    · rw [hfollow] at h
      cases h
      exact ⟨place, rfl⟩

theorem contents_of_found_file {p : FilePath} {bytes : List UInt8} (h : w.found p = .ok (some (.file bytes))) :
    w.contents p = .ok bytes := by
  obtain ⟨hp, place, hfollow⟩ := exists_follow_of_found h
  rw [contents, hp, FileSystem.read, hfollow]
  rfl

theorem contents_of_found_directory {p : FilePath} (h : w.found p = .ok (some .directory)) :
    w.contents p = .error (.file ⟨.isDirectory, p.toString⟩) := by
  obtain ⟨hp, place, hfollow⟩ := exists_follow_of_found h
  rw [contents, hp, FileSystem.read, hfollow]
  rfl

theorem reads_readFile (p : FilePath) : Reads (readFile p) w (w.contents p) := by
  refine reads_get_bind (fun _ => rfl) ?_
  cases h : unusable? p with
  | some f =>
    rw [contents, h]
    exact Step.answers_throw f
  | none =>
    rw [contents, h]
    exact reads_of _

end Host

end Landscape
