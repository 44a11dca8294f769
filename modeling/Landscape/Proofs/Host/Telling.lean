import Landscape.Proofs.Host.Asking
import Landscape.Proofs.Host.Storing
import Landscape.Render.Image

/-!
# What was told does not matter

A host keeps what it was told, and nothing that is done on it looks at that. So two runs of a step from hosts that
differ only in what they were told come to the same: they answer the same, ask the same, and leave hosts that again
differ only there.

This is said of any view of the states. A step respects a view if from states that look alike it answers the same and
leaves states that look alike (`Landscape.Step.Respects`). Steps that respect a view do so together, and what one step
has done before another shows in it only as far as it shows through the view (`Landscape.Step.shown_bind_of_ok`).
A step of which it is known what it asks and what it answers respects what this knowledge is about
(`Landscape.Step.Asks.respects`).
-/

namespace Landscape

/-! ### Steps that respect a view -/

namespace Step

variable {ε ε' σ τ ν ν' α β : Type}

/-- **What shows of a run** through a view: what is answered, and how the state looks that is left. -/
def shown (view : σ → ν) (act : Step ε σ α) (s : σ) : Except ε α × ν :=
  ((act.run s).1, view (act.run s).2)

/-- A step **respects a view** if the same shows of its runs from states that look alike. -/
def Respects (view : σ → ν) (act : Step ε σ α) : Prop :=
  ∀ s t, view s = view t → act.shown view s = act.shown view t

variable {view : σ → ν} {act : Step ε σ α} {next : α → Step ε σ β} {s t : σ} {x : ν}

/-- A run of which it is known what shows. -/
theorem exists_run_of_shown {r : Except ε α} (h : act.shown view s = (r, x)) :
    ∃ t, act.run s = (r, t) ∧ view t = x := by
  obtain ⟨hr, hview⟩ := Prod.mk.inj h
  exact ⟨(act.run s).2, Prod.ext hr rfl, hview⟩

theorem shown_of_run {r : Except ε α} (h : act.run s = (r, t)) : act.shown view s = (r, view t) := by
  rw [shown, h]

theorem respects_of (r : Except ε α) : Respects view (of r) :=
  fun _ _ h => Prod.ext rfl h

theorem respects_pure (a : α) : Respects view (pure a : Step ε σ α) :=
  respects_of _

theorem respects_throw (e : ε) : Respects view (throw e : Step ε σ α) :=
  respects_of _

theorem respects_modify {f : σ → σ} (h : ∀ s t, view s = view t → view (f s) = view (f t)) :
    Respects view (modify f : Step ε σ PUnit) :=
  fun s t hst => Prod.ext rfl (h s t hst)

/-- What shows of one step after another, if the first answers. -/
theorem shown_bind_of_ok {a : α} (h : act.shown view s = (.ok a, view t)) (hnext : Respects view (next a)) :
    (act >>= next).shown view s = (next a).shown view t := by
  obtain ⟨hr, hview⟩ := Prod.mk.inj h
  rw [shown, run_bind_of_ok (Prod.ext hr rfl)]
  exact hnext _ _ hview

/-- What shows of one step after another, if the first fails. -/
theorem shown_bind_of_error {e : ε} (h : act.shown view s = (.error e, x)) :
    (act >>= next).shown view s = (.error e, x) := by
  obtain ⟨hr, hview⟩ := Prod.mk.inj h
  rw [shown, run_bind_of_error (Prod.ext hr rfl)]
  exact Prod.ext rfl hview

/-- What shows of a step whose answer is changed. -/
theorem shown_bind_pure (g : α → β) :
    (act >>= fun a => pure (g a)).shown view s = Prod.map (Except.map g) id (act.shown view s) := by
  rcases hrun : act.run s with ⟨e | a, t⟩
  · rw [shown_of_run hrun]
    exact shown_bind_of_error (shown_of_run hrun)
  · rw [shown_of_run hrun]
    exact shown_bind_of_ok (shown_of_run hrun) (respects_pure _)

/-- **One step after the other.** -/
theorem Respects.bind (h : Respects view act) (hnext : ∀ a, Respects view (next a)) :
    Respects view (act >>= next) := by
  intro s t hst
  have hact := h s t hst
  rcases hrun : act.run t with ⟨e | a, u⟩
  · rw [shown_of_run hrun] at hact
    rw [shown_bind_of_error hact, shown_bind_of_error (shown_of_run hrun)]
  · rw [shown_of_run hrun] at hact
    rw [shown_bind_of_ok hact (hnext a), shown_bind_of_ok (shown_of_run hrun) (hnext a)]

/-- A step that looks at the state first, but only at what shows. -/
theorem respects_get_bind {next : σ → Step ε σ β} (hsame : ∀ s t, view s = view t → next s = next t)
    (h : ∀ s, Respects view (next s)) : Respects view (get >>= next) := by
  intro s t hst
  show (next s).shown view s = (next t).shown view t
  rw [hsame s t hst]
  exact h t s t hst

theorem Respects.blame (h : Respects view act) (f : ε → ε') : Respects view (act.blame f) := by
  intro s t hst
  obtain ⟨hr, hview⟩ := Prod.mk.inj (h s t hst)
  exact Prod.ext (congrArg (Except.mapError f) hr) hview

/-- A step on a part of the state, if the view shows of the part what the step respects. -/
theorem Respects.within {view' : τ → ν'} {part : σ → τ} {put : τ → σ → σ} {act : Step ε τ α}
    (h : Respects view' act) (hpart : ∀ s t, view s = view t → view' (part s) = view' (part t))
    (hput : ∀ a b s t, view s = view t → view' a = view' b → view (put a s) = view (put b t)) :
    Respects view (act.within part put) := by
  intro s t hst
  obtain ⟨hr, hview⟩ := Prod.mk.inj (h _ _ (hpart s t hst))
  exact Prod.ext hr (hput _ _ _ _ hst hview)

/-- A step respects any view through which the same states look alike. -/
theorem Respects.of_view {view' : σ → ν'} (h : Respects view act)
    (hview : ∀ s t, view' s = view' t ↔ view s = view t) : Respects view' act := by
  intro s t hst
  obtain ⟨hr, hleft⟩ := Prod.mk.inj (h s t ((hview s t).mp hst))
  exact Prod.ext hr ((hview _ _).mpr hleft)

/-- **A step of which it is known what it asks** respects what shows and what was asked. -/
theorem Asks.respects {asked : σ → List Request} (h : ∀ s, ∃ r qs y, Asks view asked act (view s) r qs y) :
    Respects (fun s => (view s, asked s)) act := by
  intro s t hst
  obtain ⟨r, qs, y, hasks⟩ := h t
  obtain ⟨hs, hs'⟩ := hasks (asked t) s hst
  obtain ⟨ht, ht'⟩ := hasks (asked t) t rfl
  exact Prod.ext (hs.trans ht.symm) (hs'.trans ht'.symm)

end Step

/-! ### Hosts -/

namespace Host

variable {ε α β : Type} {h h' : Host}

/-- A host that was told nothing. -/
def untold (h : Host) : Host :=
  { h with notes := [] }

theorem untold_eq_iff : h.untold = h'.untold ↔ h.world = h'.world ∧ h.requests = h'.requests := by
  constructor
  · intro hsame
    have hworld : h.untold.world = h'.untold.world := congrArg world hsame
    have hrequests : h.untold.requests = h'.untold.requests := congrArg requests hsame
    exact ⟨hworld, hrequests⟩
  · rintro ⟨hworld, hrequests⟩
    have huntold : { h.world with requests := h.requests } = { h'.world with requests := h'.requests } := by
      rw [hworld, hrequests]
    exact huntold

theorem files_eq_of_untold (hsame : h.untold = h'.untold) : h.files = h'.files :=
  files_eq_of_world (untold_eq_iff.mp hsame).1

/-- Two hosts that differ only in what they were told still do so with other files. -/
theorem untold_files (hsame : h.untold = h'.untold) (fs : FileSystem) :
    { h with files := fs }.untold = { h' with files := fs }.untold :=
  congrArg (fun w : Host => { w with files := fs }) hsame

theorem respects_note (level : Level) (origin : Origin) (text : String) :
    Step.Respects untold (note level origin text : Step ε Host Unit) :=
  Step.respects_modify fun _ _ hsame => hsame

theorem respects_ask (q : Request) : Step.Respects untold (ask q : Step ε Host Unit) :=
  Step.respects_modify fun _ _ hsame =>
    congrArg (fun w : Host => { w with requests := w.requests ++ [q] }) hsame

/-- A step that looks at a part of the host first that shows. -/
theorem respects_get_bind {next : Host → Step ε Host β} (hsame : ∀ h, next h = next h.untold)
    (hnext : ∀ h, Step.Respects untold (next h)) : Step.Respects untold (get >>= next) :=
  Step.respects_get_bind (fun s t hst => by rw [hsame, hst, ← hsame]) hnext

theorem respects_draw (engine format source : String) :
    Step.Respects untold (draw engine format source : Step ε Host LayoutOutcome) :=
  (respects_ask _).bind fun _ => respects_get_bind (fun _ => rfl) fun _ => Step.respects_pure _

/-- Storing a file depends on the files alone. -/
theorem respects_store (p : FilePath) (bytes : List UInt8) : Step.Respects untold (store p bytes) := by
  intro h h' hsame
  obtain ⟨r, fs, hstores, hrun⟩ := exists_stores h p bytes
  obtain ⟨r', fs', hstores', hrun'⟩ := exists_stores h' p bytes
  rw [files_eq_of_untold hsame, here_eq_of_world (untold_eq_iff.mp hsame).1] at hstores
  obtain ⟨rfl, rfl⟩ := hstores.unique hstores'
  rw [Step.shown_of_run hrun, Step.shown_of_run hrun', untold_files hsame]

end Host

/-- So does storing an image. -/
theorem respects_storeImage (target : FilePath) (image : List UInt8) :
    Step.Respects Host.untold (storeImage target image) := by
  refine ((Host.respects_store target image).blame _).bind fun _ => ?_
  refine Step.Respects.bind (Host.respects_get_bind (fun _ => rfl) fun _ => Step.respects_pure _) fun place => ?_
  exact (Host.respects_note _ _ _).bind fun _ => Step.respects_pure _

end Landscape
