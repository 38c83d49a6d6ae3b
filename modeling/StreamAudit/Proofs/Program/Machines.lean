import StreamAudit.Main
import StreamAudit.Proofs.FileTree.Changes
import StreamAudit.Proofs.Program.Outcomes

/-!
# Two machines to run on

One is a tree of files: a file placed in it is what a run audits that names the place.

The other is the one that the command itself runs on. The command opens at most one
path and prints one text. Once it is known what the path gave and what stopped the
text, it ends as a run does on a machine on which every path gives this and every
text is stopped by this. What holds of the runs on any machine therefore holds of the
command. Nothing is assumed of what opening and printing do.
-/

namespace StreamAudit

open CommandLine (Accepts)

variable {arguments : List (List UInt8)}

/-! ## Trees of files -/

/-- A run that names the place of a file audits what was placed there. -/
theorem run_placeFile {path : List UInt8} {row : List FileName} {separator : String}
    (hpath : FileTree.Spells path row) (haccepts : Accepts arguments ⟨path, separator⟩)
    (tree : FileTree) (content : List UInt8) :
    run (tree.placeFile content row) arguments =
      (Verdict.ofAudit (auditSource separator path (.ok (.content content)))).outcome
        fun _ => none := by
  have hopened : (tree.placeFile content row).alone.machine.opened path = .ok (.content content) :=
    FileTree.source_placeFile hpath tree content
  rw [run_of_accepts haccepts, auditPath, hopened]
  rfl

/-! ## The command -/

/-- The one path that is opened is all that a verdict depends on, in any monad. -/
theorem verdict_of_accepts {m : Type → Type} [Monad m]
    (opener : List UInt8 → m (Except OpenError Source)) {invocation : Invocation}
    (h : Accepts arguments invocation) :
    verdict opener arguments = opener invocation.input >>= fun opened =>
      pure (Id.run (verdict (fun _ => opened) arguments)) := by
  simp only [verdict, h.parse?_eq]
  rfl

/-- No path is opened for a command line that is not accepted. -/
theorem verdict_of_not_accepts {m : Type → Type} [Monad m]
    (opener : List UInt8 → m (Except OpenError Source))
    (h : ∀ invocation, ¬ Accepts arguments invocation) :
    verdict opener arguments = pure .rejected := by
  simp only [verdict, CommandLine.parse?_eq_none_iff.mpr h]

/-- Actions done one after the other may be grouped in any way. -/
theorem action_bind_assoc {α β γ : Type} (x : IO α) (f : α → IO β) (g : β → IO γ) :
    (x >>= f) >>= g = x >>= fun a => f a >>= g := by
  funext world
  show EST.bind (EST.bind x f) g world = EST.bind x (fun a => EST.bind (f a) g) world
  unfold EST.bind
  cases x world <;> rfl

theorem runOnMachine_of_accepts {arguments : List String} {invocation : Invocation}
    (h : Accepts (arguments.map Text.Utf8.encode) invocation) :
    runOnMachine arguments = do
      let opened ← openSource invocation.input
      let whole := run ⟨fun _ => opened, fun _ => none⟩ (arguments.map Text.Utf8.encode)
      let stop ← print whole.stdout
      return run ⟨fun _ => opened, fun _ => stop⟩ (arguments.map Text.Utf8.encode) := by
  rw [runOnMachine, verdict_of_accepts _ h, action_bind_assoc]
  simp only [run, Verdict.stdout_outcome]
  rfl

theorem runOnMachine_of_not_accepts {arguments : List String}
    (h : ∀ invocation, ¬ Accepts (arguments.map Text.Utf8.encode) invocation)
    (opened : List UInt8 → Except OpenError Source) :
    runOnMachine arguments = do
      let whole := run ⟨opened, fun _ => none⟩ (arguments.map Text.Utf8.encode)
      let stop ← print whole.stdout
      return run ⟨opened, fun _ => stop⟩ (arguments.map Text.Utf8.encode) := by
  rw [runOnMachine, verdict_of_not_accepts _ h]
  simp only [run, verdict_of_not_accepts _ h, Verdict.stdout_outcome]
  rfl

end StreamAudit
