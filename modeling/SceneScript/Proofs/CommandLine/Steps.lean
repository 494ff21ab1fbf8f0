import SceneScript.CommandLine.World

/-
  The steps of a run on a host that may deny any request, and may do so in any
  state: a denied request has no effect, on standard output as on files. `Ends` describes a step by the files
  and the output it leaves, standard error aside, on success and on failure. It
  is closed under `>>=` (`Ends.bind'`), and there is one rule for each thing the
  program asks of its host.
-/

namespace SceneScript

/-! ## Hosts that deny requests -/

namespace World

/-- What a run asks of its files and of standard output. -/
inductive Request where
  | read (path : Path)
  | makeFolderFor (path : Path)
  | write (path : Path)
  | print
  deriving DecidableEq, Repr

/-- Which requests are denied in which world, with the wording of the denial. -/
abbrev Denial := Request → World → Option String

/-- An operation that is left out if its request is denied. -/
def unlessDenied {α : Type} (deny : Denial) (r : Request)
    (operation : StateM World (Except String α)) : StateM World (Except String α) := fun w =>
  match deny r w with
  | some e => (.error e, w)
  | none => operation w

/-- The host that denies requests its files would allow, for want of room or of
a permission. Standard output is denied like a file, as a whole. -/
def denying (deny : Denial) : Host (StateM World) :=
  { host with
    read := fun path => unlessDenied deny (.read path) (host.read path)
    makeFolderFor := fun path =>
      unlessDenied deny (.makeFolderFor path) (host.makeFolderFor path)
    write := fun path text => unlessDenied deny (.write path) (host.write path text)
    print := fun text => unlessDenied deny .print (host.print text) }

end World

namespace Run

/-! ## How a step ends -/

variable {ε α β : Type} {deny : World.Denial} {t : FileTree} {out : String}
  {done : α → FileTree → String → Prop} {failed : FileTree → String → Prop}

/-- What is said of a step that ended: `done` of its result, the files and the
output, or `failed` of the files and the output. -/
def Meets (done : α → FileTree → String → Prop) (failed : FileTree → String → Prop) :
    Except ε α × World → Prop
  | (.ok a, w) => done a w.tree w.stdout
  | (.error _, w) => failed w.tree w.stdout

/-- From the files `t` and the output `out` so far, `x` ends in such a way. -/
def Ends (x : StateM World (Except ε α)) (t : FileTree) (out : String)
    (done : α → FileTree → String → Prop) (failed : FileTree → String → Prop) : Prop :=
  ∀ stderr, Meets done failed (x ⟨t, out, stderr⟩)

/-- Only standard error sees the events. -/
theorem exists_showEvents (deny : World.Denial) (verbose : Bool) (events : List Event)
    (w : World) :
    ∃ stderr, showEvents (World.denying deny) verbose events w =
      ((), { w with stderr := stderr }) := by
  induction events generalizing w with
  | nil => exact ⟨w.stderr, rfl⟩
  | cons e rest ih =>
    show ∃ stderr, (do
      if (shownLevel verbose).rank ≤ e.level.rank then
        (World.denying deny).complain e.logLine
      showEvents (World.denying deny) verbose rest : StateM World Unit) w = _
    split
    case isTrue => exact ih { w with stderr := _ }
    case isFalse => exact ih w

namespace Ends

/-- An operation of the host whose failure is reported in some other form. -/
theorem mapError {ε' : Type} {x : StateM World (Except ε α)} (g : ε → ε')
    (hx : Ends x t out done failed) :
    Ends (do return (← x).mapError g : StateM World (Except ε' α)) t out done failed := by
  intro stderr
  have hx := hx stderr
  show Meets done failed ((x ⟨t, out, stderr⟩ : Except ε α × World).1.mapError g,
    (x ⟨t, out, stderr⟩ : Except ε α × World).2)
  revert hx
  match (x ⟨t, out, stderr⟩ : Except ε α × World) with
  | (.ok a, w) => exact id
  | (.error _, w) => exact id

theorem unlessDenied {x : StateM World (Except String α)} {r : World.Request}
    (hdenied : ∀ w e, deny r w = some e → failed t out) (hx : Ends x t out done failed) :
    Ends (World.unlessDenied deny r x) t out done failed := by
  intro stderr
  have hx := hx stderr
  unfold World.unlessDenied
  cases hr : deny r ⟨t, out, stderr⟩ with
  | none => exact hx
  | some e => exact hdenied _ e hr

theorem read {path : Path} {done : List UInt8 → FileTree → String → Prop}
    (hdenied : ∀ w e, deny (.read path) w = some e → failed t out)
    (hfailed : ∀ e, t.read path = .error e → failed t out)
    (hdone : ∀ content, t.read path = .ok content → done content t out) :
    Ends ((World.denying deny).read path) t out done failed := by
  apply unlessDenied hdenied
  intro stderr
  show Meets done failed ((t.read path).mapError FileError.message, World.mk t out stderr)
  cases hread : t.read path with
  | ok content => exact hdone content hread
  | error e => exact hfailed e hread

theorem change (f : FileTree → Except FileError FileTree)
    {done : Unit → FileTree → String → Prop} (hfailed : ∀ e, f t = .error e → failed t out)
    (hdone : ∀ next, f t = .ok next → done () next out) :
    Ends (World.change f) t out done failed := by
  intro stderr
  unfold World.change
  cases hf : f t with
  | ok next => exact hdone next hf
  | error e => exact hfailed e hf

theorem makeFolderFor {path : Path} {done : Unit → FileTree → String → Prop}
    (hdenied : ∀ w e, deny (.makeFolderFor path) w = some e → failed t out)
    (hfailed : ∀ e, t.makeFolderFor path = .error e → failed t out)
    (hdone : ∀ next, t.makeFolderFor path = .ok next → done () next out) :
    Ends ((World.denying deny).makeFolderFor path) t out done failed :=
  unlessDenied hdenied (change (fun t => t.makeFolderFor path) hfailed hdone)

theorem write {path : Path} {text : String} {done : Unit → FileTree → String → Prop}
    (hdenied : ∀ w e, deny (.write path) w = some e → failed t out)
    (hfailed : ∀ e, t.write path (Text.Utf8.encode text) = .error e → failed t out)
    (hdone : ∀ next, t.write path (Text.Utf8.encode text) = .ok next → done () next out) :
    Ends ((World.denying deny).write path text) t out done failed :=
  unlessDenied hdenied (change (fun t => t.write path (Text.Utf8.encode text)) hfailed hdone)

theorem shown (verbose : Bool) (events : List Event) {done : Unit → FileTree → String → Prop}
    (h : done () t out) :
    Ends (ExceptT.lift (showEvents (World.denying deny) verbose events) :
      Step (StateM World) Unit).run t out done failed := by
  intro stderr
  obtain ⟨stderr', hrun⟩ := exists_showEvents deny verbose events ⟨t, out, stderr⟩
  show Meets done failed (.ok (),
    (showEvents (World.denying deny) verbose events ⟨t, out, stderr⟩ : Unit × World).2)
  rw [hrun]
  exact h

theorem print {text : String} {done : Unit → FileTree → String → Prop}
    (hdenied : ∀ w e, deny .print w = some e → failed t out) (hdone : done () t (out ++ text)) :
    Ends ((World.denying deny).print text) t out done failed :=
  unlessDenied hdenied (fun _ => hdone)

/-- A computation ends by its outcome, whatever its events. -/
theorem traced (verbose : Bool) (context : String) (c : Traced α)
    (hdone : ∀ a, c.outcome = .ok a → done a t out)
    (hfailed : ∀ f, c.outcome = .error f → failed t out) :
    Ends (traced (World.denying deny) verbose context c).run t out done failed := by
  intro stderr
  obtain ⟨stderr', hrun⟩ := exists_showEvents deny verbose c.events ⟨t, out, stderr⟩
  show Meets done failed (c.outcome.mapError (fun f => Failure.mk context (some f.message)),
    (showEvents (World.denying deny) verbose c.events ⟨t, out, stderr⟩ : Unit × World).2)
  rw [hrun]
  cases hc : c.outcome with
  | ok a => exact hdone a hc
  | error f => exact hfailed f hc

end Ends

end Run

end SceneScript
