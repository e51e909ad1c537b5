import Pnio.DeviceLife

/-!
The cells of the I/O image belong to the AR that is up.

They are written when the AR reaches `Data` and cleared when its RT thread is stopped. An AR
whose thread could not be spawned has no thread to stop, and leaves its cells behind.
-/

namespace Pnio

namespace Device

/-- The cells are those of the layout of the AR that is up. -/
def OwnCells (d : Device) : Prop :=
  d.cm.ar.state = .data ∧ ∃ params layout, d.cm.params = some params ∧
    Layout.fromAr params d.setup.model = .ok layout ∧ d.image.cells = layout.cells

/-- There are cells only with a thread, and they are those of the AR. -/
structure Celled (s : Device × List Batch) : Prop where
  runner : s.1.image.cells ≠ [] → s.1.runner
  layout : s.1.image.cells ≠ [] → ∃ params layout, s.1.cm.params = some params ∧
    Layout.fromAr params s.1.setup.model = .ok layout ∧ s.1.image.cells = layout.cells

section Celled

variable {d d' : Device} {ps ps' : List Batch} {obs : List Obs}

lemma Celled.of_empty (h : d.image.cells = []) : Celled (d, ps) :=
  ⟨fun hc => absurd h hc, fun hc => absurd h hc⟩

lemma Celled.of_talks (h : Celled (d, ps)) (ht : Talks d d' obs) : Celled (d', ps') where
  runner := by
    rw [show (d', ps').1.image = _ from ht.image, show (d', ps').1.runner = _ from ht.runner]
    exact h.runner
  layout := by
    rw [show (d', ps').1.image = _ from ht.image, show (d', ps').1.cm = _ from ht.cm,
      show (d', ps').1.setup = _ from ht.setup]
    exact h.layout

/-- Without a thread there are no cells. -/
lemma Celled.no_runner (h : Celled (d, ps)) (hr : d.runner = false) : d.image.cells = [] := by
  by_contra hc
  have := h.runner hc
  rw [show (d, ps).1.runner = _ from hr] at this
  cases this

/-- Losing the AR clears the image, through the thread if there is one. -/
lemma Celled.lost_cells (h : Celled (d, ps)) (ht : d'.image = d.image)
    (hr : d'.runner = d.runner) (r : AbortReason) : (d'.lostBy r).image.cells = [] := by
  rw [lostBy_image, hr, ht]
  by_cases hrun : d.runner = true
  · rw [if_pos hrun]
    rfl
  · rw [if_neg hrun]
    exact h.no_runner (Bool.eq_false_iff.2 hrun)

/-- With every spawn granted, the cells come with the thread. -/
lemma Celled.spawned {cm : Cm} {ctx : ArContext} (hctx : cm.ar.ctx = some ctx)
    (hcm : d.cm = cm) (hempty : d.image.cells = []) (hs : Spawned ctx.params true d d') :
    Celled (d', ps) := by
  cases hs with
  | nothing hn => exact .of_empty hempty
  | @rebuilt layout hrt hl =>
    refine ⟨fun _ => rfl, fun _ => ⟨ctx.params, layout, ?_, hl, rfl⟩⟩
    rw [Cm.params, show d.cm = cm from hcm, hctx]
    rfl

/-- **Every move keeps the cells with their AR**, if every spawn is granted. -/
lemma Celled.micro {s s' : Device × List Batch} (hl : Life s) (h : Celled s)
    (hm : Micro true true s s') : Celled s' := by
  cases hm with
  | talk ht ho => exact h.of_talks ht
  | produced hopen ht ha => exact h.of_talks ht
  | command hc hd => exact ⟨h.runner, h.layout⟩
  | @announced d d' ps diag n acts hc hd hq =>
    have h' : Celled ({ d with diag }, ps) := ⟨h.runner, h.layout⟩
    cases hq with
    | dropped ht hno => exact h'.of_talks ht
    | queued hopen ht ha => exact h'.of_talks ht
  | publish => exact ⟨h.runner, h.layout⟩
  | @quiet d d' ps cm out obs he hf hn ht ho =>
    have hparams : cm.params = d.cm.params := (he.of_quiet hn).1
    have h' : Celled ({ d with cm }, ps) := by
      refine ⟨h.runner, fun hc => ?_⟩
      obtain ⟨params, layout, hp, hlay⟩ := h.layout hc
      exact ⟨params, layout, hparams.trans hp, hlay⟩
    exact h'.of_talks ht
  | @connected d d' ps cm out obs he hf hn ht ho =>
    -- in `Idle` there was no thread, so there are no cells
    have hempty : d.image.cells = [] :=
      h.no_runner (hl.no_runner (by simp [(he.of_connected hn).1]))
    exact .of_empty ((congrArg IoImage.cells ht.image).trans hempty)
  | @lost d d' ps cm out obs r he hf hn ht ho =>
    exact .of_empty (h.lost_cells ht.image ht.runner r)
  | @takeover d d' ps cm out obs r he hf hn ht ho =>
    exact .of_empty (h.lost_cells ht.image ht.runner r)
  | @data d d1 d2 d3 ps cm out obs obs' ctx spawns he hf hn hctx ht ho hsp hr ht' ho' hv =>
    obtain rfl : spawns = true := hsp rfl
    have hempty : d.image.cells = [] := h.no_runner (hl.no_runner (by simp [(he.of_data hn).1]))
    have hcells : (d1.note (.callback .data none)).image.cells = [] :=
      (congrArg IoImage.cells ht.image).trans hempty
    have h2 : Celled (d2, ps) :=
      Celled.spawned (d := d1.note (.callback .data none)) hctx ht.cm hcells hr
    have hopened : Celled (d2.openAlarmChannel, ps) := by
      unfold openAlarmChannel
      split
      · exact h2
      · exact ⟨h2.runner, h2.layout⟩
    have h3 : Celled (d3, ps) := hopened.of_talks ht'
    exact ⟨h3.runner, h3.layout⟩
  | performed hb hopen hepoch ha => exact h.of_talks (.note _ _)
  | @aborted d d' ps b r obs hb hopen hepoch ht ho hst =>
    have himage : ({ d' with cm := { d'.cm with ar := d'.cm.ar.dropped } } : Device).image =
        d.image := ht.image
    exact .of_empty (h.lost_cells himage ht.runner r)
  | @abortedIdle d d' ps b r obs hb hopen hepoch ht ho hst =>
    have h1 : Celled (d.note (.performed b.producer (.abort r)), ps) := h.of_talks (.note _ _)
    exact h1.of_talks ht
  | popped => exact ⟨h.runner, h.layout⟩

lemma celled_kept : Kept true fun s => Life s ∧ Celled s where
  new setup := ⟨(life_kept true).new setup, .of_empty rfl⟩
  move _ _ _ h hm := ⟨h.1.micro hm, h.2.micro h.1 hm⟩
  image d im hcells h := by
    refine ⟨⟨h.1.alarm, h.1.runner, h.1.path⟩, ?_, ?_⟩
    · rw [show ({ d with image := im } : Device).image.cells = _ from hcells]
      exact h.2.runner
    · rw [show ({ d with image := im } : Device).image.cells = _ from hcells]
      exact h.2.layout

end Celled

/-- **The image shows the AR that is up**, in every run in which the RT thread is spawned
whenever it is asked for. -/
theorem cells_of_current_ar {d : Device}
    (h : deviceSystem.ReachWhen (fun _ i => i.Spawns) d) (hc : d.image.cells ≠ []) :
    d.OwnCells := by
  obtain ⟨-, hlife, hcelled⟩ := reachWhen_inv celled_kept (fun _ _ hg _ => hg) h
  exact ⟨hlife.runner (hcelled.runner hc), hcelled.layout hc⟩

theorem cells_of_first_ar :
    ∃ d, deviceSystem.ReachWhen (fun _ i => i.Spawns) d ∧ d.image.cells ≠ [] ∧ d.OwnCells := by
  have hrun : (deviceSystem.runWhen (fun _ i => i.Spawns) (.new DeviceDemo.setup)
      (DeviceDemo.bringUp true)).any (fun d => !d.image.cells.isEmpty) = true := by
    decide +kernel
  obtain ⟨d, hd, hp⟩ := System.exists_reachWhen_of_run DeviceDemo.new_init hrun
  have hc : d.image.cells ≠ [] := by simpa using hp
  exact ⟨d, hd, hc, cells_of_current_ar hd hc⟩

/-- The RT thread of the first AR cannot be spawned. Its cells are there all the same, and they
are still there when the controller has released the AR: only the end of a thread clears them. -/
theorem cells_left_behind :
    ¬ ∀ d, d.setup.rt → deviceSystem.Reach d → d.image.cells ≠ [] → d.OwnCells := by
  intro hall
  have hrun : (deviceSystem.run (.new DeviceDemo.setup)
      (DeviceDemo.bringUp false ++ [DeviceDemo.recv false [Demo.release 2 1] []])).any
      (fun d => d.setup.rt && !d.image.cells.isEmpty && d.cm.ar.state == .idle) = true := by
    decide +kernel
  obtain ⟨d, hd, hp⟩ := System.exists_reach_of_run DeviceDemo.new_init hrun
  simp only [Bool.and_eq_true, beq_iff_eq] at hp
  obtain ⟨⟨hrt, hcells⟩, hidle⟩ := hp
  have hdata : d.cm.ar.state = .data := (hall d hrt hd (by simpa using hcells)).1
  rw [hidle] at hdata
  cases hdata

end Device

end Pnio
