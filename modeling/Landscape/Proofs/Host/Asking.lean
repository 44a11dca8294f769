import Landscape.Proofs.Settings.Reading

/-!
# What a step asks

A step keeps a book of what it asked, and only ever writes at its end. So what a step asks is told as the requests
that it adds, together with what it answers and leaves (`Landscape.Step.Asks`), and one step after another asks
what the first asks and then what the second asks (`Landscape.Step.Asks.bind`).

Most steps that read ask nothing on the way (`Landscape.Step.Quiet`). In particular loading settings does not
(`Landscape.Settings.quiet_load`).
-/

namespace Landscape

/-! ### Steps with what they ask -/

namespace Step

variable {ε ε' σ τ ν ν' α β : Type}

/-- **What a step asks** while it answers: from each state that looks like `x` it answers `r`, adds `qs` to what was
asked, and leaves a state that looks like `y`. -/
def Asks (view : σ → ν) (asked : σ → List Request) (act : Step ε σ α) (x : ν) (r : Except ε α) (qs : List Request)
    (y : ν) : Prop :=
  ∀ rs, act.Answers (fun s => (view s, asked s)) (x, rs) r (y, rs ++ qs)

/-- A step that asks nothing. -/
def Quiet (asked : σ → List Request) (act : Step ε σ α) : Prop :=
  ∀ s, asked (act.run s).2 = asked s

variable {view : σ → ν} {asked : σ → List Request} {act : Step ε σ α} {next : α → Step ε σ β} {x y z : ν}
  {qs qs' : List Request}

/-- What is asked may be left out. -/
theorem Asks.answers {r : Except ε α} (h : Asks view asked act x r qs y) : Answers view act x r y := by
  intro s hs
  obtain ⟨hr, hy⟩ := h (asked s) s (Prod.ext hs rfl)
  exact ⟨hr, congrArg Prod.fst hy⟩

/-- What is asked from a state. -/
theorem Asks.asked_run {r : Except ε α} {s : σ} (h : Asks view asked act x r qs y) (hs : view s = x) :
    asked (act.run s).2 = asked s ++ qs :=
  congrArg Prod.snd (h (asked s) s (Prod.ext hs rfl)).2

/-- A quiet step asks nothing. -/
theorem Answers.asks {r : Except ε α} (h : Answers view act x r y) (hquiet : Quiet asked act) :
    Asks view asked act x r [] y := by
  intro rs s hs
  obtain ⟨hx, rfl⟩ := Prod.mk.inj hs
  obtain ⟨hr, hy⟩ := h s hx
  exact ⟨hr, Prod.ext hy ((hquiet s).trans (List.append_nil _).symm)⟩

/-- **One step after the other**, if the first answers. -/
theorem Asks.bind {a : α} {r : Except ε β} (h : Asks view asked act x (.ok a) qs y)
    (h' : Asks view asked (next a) y r qs' z) : Asks view asked (act >>= next) x r (qs ++ qs') z := by
  intro rs
  rw [← List.append_assoc]
  exact (h rs).bind (h' (rs ++ qs))

/-- One step after the other, if the second asks nothing. -/
theorem Asks.bind_quiet {a : α} {r : Except ε β} (h : Asks view asked act x (.ok a) qs y)
    (h' : Asks view asked (next a) y r [] z) : Asks view asked (act >>= next) x r qs z :=
  List.append_nil qs ▸ h.bind h'

/-- One step after the other, if the first fails. -/
theorem Asks.bind_error {e : ε} (h : Asks view asked act x (.error e) qs y) :
    Asks view asked (act >>= next) x (.error e) qs y :=
  fun rs => (h rs).bind_error

/-! ### Quiet steps -/

theorem quiet_of (r : Except ε α) : Quiet asked (of r) :=
  fun _ => rfl

theorem quiet_pure (a : α) : Quiet asked (pure a : Step ε σ α) :=
  fun _ => rfl

theorem quiet_throw (e : ε) : Quiet asked (throw e : Step ε σ α) :=
  fun _ => rfl

theorem Quiet.bind (h : Quiet asked act) (h' : ∀ a, Quiet asked (next a)) : Quiet asked (act >>= next) := by
  intro s
  rcases hrun : act.run s with ⟨e | a, t⟩
  · rw [run_bind_of_error hrun, ← h s, hrun]
  · rw [run_bind_of_ok hrun, h' a t, ← h s, hrun]

theorem quiet_get_bind {next : σ → Step ε σ β} (h : ∀ s, Quiet asked (next s)) : Quiet asked (get >>= next) :=
  fun s => h s s

theorem Quiet.blame (h : Quiet asked act) (f : ε → ε') : Quiet asked (act.blame f) :=
  h

end Step

/-! ### Hosts -/

namespace Host

variable {ε ε' α β : Type} {w : Host} {qs : List Request}

/-- A step that **only reads** and asks `qs` for it. -/
def ReadsBy (act : Step ε Host α) (w : Host) (r : Except ε α) (qs : List Request) : Prop :=
  act.Asks world requests w.world r qs w.world

/-- A step that is quiet. -/
abbrev Quiet (act : Step ε Host α) : Prop :=
  Step.Quiet requests act

theorem Reads.readsBy {act : Step ε Host α} {r : Except ε α} (h : Reads act w r) (hquiet : Quiet act) :
    ReadsBy act w r [] :=
  Step.Answers.asks h hquiet

theorem quiet_note (level : Level) (origin : Origin) (text : String) :
    Quiet (note level origin text : Step ε Host Unit) :=
  fun _ => rfl

theorem readsBy_note (level : Level) (origin : Origin) (text : String) :
    ReadsBy (note level origin text : Step ε Host Unit) w (.ok ()) [] :=
  (reads_note level origin text).readsBy (quiet_note _ _ _)

/-- A step that looks at the host first, but not into its books. -/
theorem readsBy_get_bind {next : Host → Step ε Host β} {r : Except ε β} (hnext : ∀ h, next h = next h.world)
    (h : ReadsBy (next w.world) w r qs) : ReadsBy (get >>= next) w r qs := by
  refine fun rs => Step.answers_get_bind fun s hs => ?_
  rw [hnext, (Prod.mk.inj hs).1]
  exact h rs

theorem readsBy_ask (q : Request) : ReadsBy (ask q : Step ε Host Unit) w (.ok ()) [q] := by
  refine fun rs => Step.answers_modify fun s hs => ?_
  obtain ⟨hw, rfl⟩ := Prod.mk.inj hs
  exact Prod.ext hw rfl

/-- **A step that asks** one thing and then looks at the host. -/
theorem readsBy_ask_bind (q : Request) (g : Host → α) (hg : ∀ h, g h = g h.world) :
    ReadsBy (do ask q; return g (← get) : Step ε Host α) w (.ok (g w)) [q] := by
  have hget : ReadsBy (do return g (← get) : Step ε Host α) w (.ok (g w)) [] := by
    refine readsBy_get_bind (fun h => by rw [hg]) ?_
    rw [hg w]
    exact Step.Answers.asks (Step.answers_pure _) (Step.quiet_pure _)
  exact (readsBy_ask q).bind hget

theorem readsBy_hasProgram (name : String) :
    ReadsBy (hasProgram name : Step ε Host Bool) w (.ok (w.programs.contains name)) [.find name] :=
  readsBy_ask_bind _ (fun h => h.programs.contains name) fun _ => rfl

theorem readsBy_run (command : List String) (input : String) (timeout : Value) :
    ReadsBy (run command input timeout : Step ε Host RunOutcome) w (.ok w.runs) [.run command input timeout] :=
  readsBy_ask_bind _ Host.runs fun _ => rfl

theorem readsBy_fetch (address : String) (timeout : Value) :
    ReadsBy (fetch address timeout : Step ε Host FetchOutcome) w (.ok w.fetches) [.fetch address timeout] :=
  readsBy_ask_bind _ Host.fetches fun _ => rfl

theorem quiet_entry (p : FilePath) : Quiet (Host.entry? p) := by
  refine Step.quiet_get_bind fun h => ?_
  split
  · exact Step.quiet_pure _
  · exact Step.quiet_of _

theorem quiet_readFile (p : FilePath) : Quiet (readFile p) := by
  refine Step.quiet_get_bind fun h => ?_
  split
  · exact Step.quiet_throw _
  · exact Step.quiet_of _

theorem quiet_readDocument (shape : Shape) (p : FilePath) : Quiet (readDocument shape p) :=
  Step.Quiet.bind ((quiet_readFile p).blame _) fun _ => Step.quiet_get_bind fun _ => Step.quiet_of _

end Host

/-! ### Settings -/

namespace Settings

open Host

theorem quiet_readEntries (p : FilePath) : Host.Quiet (readEntries p) := by
  refine Step.Quiet.bind ((quiet_readDocument settingsShape p).blame _) fun document => ?_
  exact (Step.quiet_of _).bind fun config => (quiet_note _ _ _).bind fun _ => Step.quiet_pure _

/-- **Loading settings asks nothing.** -/
theorem quiet_load (name : Option String) : Host.Quiet (load name) := by
  have hentries : Host.Quiet (loadEntries name) := by
    refine Step.quiet_get_bind fun h => Step.Quiet.bind ((quiet_entry _).blame _) fun entry => ?_
    split
    · exact quiet_readEntries _
    · split
      · exact Step.quiet_throw _
      · exact (quiet_note _ _ _).bind fun _ => Step.quiet_pure _
  exact hentries.bind fun config => Step.quiet_get_bind fun h => Step.quiet_of _

end Settings

end Landscape
