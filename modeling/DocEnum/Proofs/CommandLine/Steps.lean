import DocEnum.CommandLine.Run
import DocEnum.Proofs.Delivery
import DocEnum.Proofs.Libraries

/-!
# The steps of commands

What the steps of a command do to its output and to the surroundings.

**Work with output.** `advance` gives the outcome of the work of a command, its output so far, and
the surroundings. Work that comes after an ending is not done, and the output stays
(`advance_bind`).

**Messages.** A message is printed as the display shows it, or ends the command with an error
(`advance_print`). A warning that has bytes is always shown, because its text is protected
(`exists_message_warning`).

**Input.** A file that can be read passes the check for it, so a command reads it as any other work
does (`advance_readComment_bind`).
-/

namespace DocEnum

open CommandLine

/-- The report of a command by what its work came to, and its output. -/
def CommandLine.Report.of : Except Ending Unit × Text → Report
  | (.ok (), output) => ⟨output, .exit 0⟩
  | (.error ending, output) => ⟨output, ending⟩

namespace File.Store

theorem kind_of_read {s : Store} {path : Path} {bytes : List UInt8} (h : s.read path = .ok bytes) :
    s.kind path = .ok .file := by
  unfold read at h
  unfold kind
  split at h
  · cases h
  · split at h
    · cases h
    · cases h
    · next hnode =>
      rw [hnode]
      rfl

end File.Store

namespace World

variable {α β : Type} {w w' : World} {output : Text} {path : Path} {bytes : List UInt8}

theorem perform_isFile (h : w.store.read path = .ok bytes) :
    w.perform (Workspace.isFile path) = (.ok true, w) := by
  have hkind : w.act (Workspace.kind path) = (.ok .file, w) :=
    congrArg (·, w) (File.Store.kind_of_read h)
  unfold Workspace.isFile
  rw [perform_bind, perform_lift, hkind]
  rfl

/-! ## Work with output -/

/-- What the work of a command comes to after some output, with the output and the surroundings
after it. -/
def advance (w : World) (output : Text) (work : Work (StateM World) α) :
    (Except Ending α × Text) × World :=
  w.act (work.run.run output)

/-- What comes after some work is done only if the work does not end the command. -/
theorem advance_bind (work : Work (StateM World) α) (next : α → Work (StateM World) β) :
    w.advance output (work >>= next) =
      match w.advance output work with
      | ((.ok a, output'), w') => w'.advance output' (next a)
      | ((.error ending, output'), w') => ((.error ending, output'), w') := by
  unfold advance
  rw [ExceptT.run_bind, StateT.run_bind, act_bind]
  -- An ending is an outcome like any other, so that it is handed on with the output.
  rcases w.act (work.run.run output) with ⟨⟨outcome, output'⟩, w'⟩
  cases outcome <;> rfl

theorem advance_attempt (work : ExceptT Error (StateM World) α) :
    w.advance output (Work.attempt work) =
      ((.ok (w.perform work).1, output), (w.perform work).2) := rfl

theorem advance_attempt_bind {work : ExceptT Error (StateM World) α} {outcome : Except Error α}
    (h : w.perform work = (outcome, w'))
    (next : Except Error α → Work (StateM World) β) :
    w.advance output (Work.attempt work >>= next) = w'.advance output (next outcome) := by
  rw [advance_bind, advance_attempt, h]

theorem advance_perform_bind {work : ExceptT Error (StateM World) α} {a : α}
    (h : w.perform work = (.ok a, w')) (next : α → Work (StateM World) β) :
    w.advance output (Work.perform work >>= next) = w'.advance output (next a) := by
  unfold Work.perform
  rw [bind_assoc, advance_attempt_bind h]
  rfl

theorem act_run [Display] [JsonWriter] [YamlLibrary] (command : Command) :
    w.act command.run =
      (.of (w.advance [] command.work).1, (w.advance [] command.work).2) := by
  unfold Command.run
  rw [act_bind]
  unfold advance
  rcases w.act ((command.work (m := StateM World)).run.run []) with ⟨⟨_ | _, output⟩, w'⟩ <;> rfl

/-! ## Messages -/

theorem advance_print (w : World) (output : Text) (printed : Except Display.Fault Text) :
    w.advance output (Work.print printed) =
      match printed with
      | .ok shown => ((.ok (), output ++ shown ++ [.char '\n']), w)
      | .error fault => ((.error (.error fault.error), output), w) := by
  cases printed <;> rfl

theorem advance_print_snd (w : World) (output : Text) (printed : Except Display.Fault Text) :
    (w.advance output (Work.print printed)).2 = w := by
  cases printed <;> rfl

/-- **A warning** is shown and ends the command with code one, or cannot be printed. -/
theorem advance_warn [Display] (w : World) (output message : Text) :
    w.advance output (Work.warn (α := α) message) =
      match Display.message (warning message) with
      | .ok shown => ((.error (.exit 1), output ++ shown ++ [.char '\n']), w)
      | .error fault => ((.error (.error fault.error), output), w) := by
  unfold Work.warn Work.printMessage
  rw [advance_bind, advance_print]
  cases Display.message (warning message) <;> rfl

theorem exists_message_warning [Display] [Display.Lawful] {message : Text}
    (h : Utf8.Encodable message) :
    ∃ shown, Display.message (warning message) = .ok shown :=
  Display.Lawful.message_protect h

/-! ## Input -/

theorem advance_expectFile_bind (h : w.store.read path = .ok bytes) (reason : Text)
    (next : Unit → Work (StateM World) β) :
    w.advance output (Work.expectFile path reason >>= next) = w.advance output (next ()) := by
  unfold Work.expectFile
  rw [bind_assoc, advance_perform_bind (perform_isFile h)]
  rfl

/-- **A comment file** that stands there is read as it is. -/
theorem advance_readComment_bind (hpath : path.text ≠ ("-" : Text))
    (h : w.store.read path = .ok bytes)
    (next : Text → Work (StateM World) β) :
    w.advance output (Work.readComment path >>= next) =
      w.advance output (Work.perform (Workspace.readText path) >>= next) := by
  unfold Work.readComment
  rw [if_neg hpath, bind_assoc, advance_expectFile_bind h]

end World

end DocEnum
