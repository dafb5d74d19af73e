import LoxTokenizer.Output

namespace LoxTokenizer

/-!
# Quiet loggers

Almost everything that a run logs is for debugging.  A logger that holds all of that back leaves on the
error output only the lines that are for the reader.
-/

/-- The line for the reader, if there is one. -/
def Message.line? : Message → Option String
  | .record _ => none
  | .line text => some text

/-- A message that is for the reader or for debugging. -/
def Message.IsModest : Message → Prop
  | .record logged => logged.severity = .debug
  | .line _ => True

namespace Contribution

/-- The lines for the reader. -/
def lines (contribution : Contribution) : List String :=
  contribution.messages.filterMap Message.line?

end Contribution

/-- What a scan tells about itself is for debugging. -/
theorem Log.Record.severity_ofScanEvent (event : ScanEvent) :
    (Log.Record.ofScanEvent event).severity = .debug := by
  cases event <;> rfl

namespace Log.Logger

/-- Nothing that is only for debugging gets through. -/
def IsQuiet (logger : Logger) : Prop :=
  ∀ record : Record, record.severity = .debug → logger.filter.enables record = false

namespace IsQuiet

variable {logger : Logger} (quiet : logger.IsQuiet)

include quiet

theorem write_eq {record : Record} (debug : record.severity = .debug) :
    logger.write record = "" := by
  rw [write, quiet record debug]
  rfl

theorem writeAll_map_eq {α : Type} {record : α → Record}
    (debug : ∀ item, (record item).severity = .debug) (items : List α) :
    logger.writeAll (items.map record) = "" := by
  induction items with
  | nil => rfl
  | cons item later ih =>
      rw [List.map_cons, writeAll, List.foldr_cons, quiet.write_eq (debug item)]
      exact String.empty_append.trans ih

theorem writeMessages_eq {messages : List Message}
    (modest : ∀ message ∈ messages, message.IsModest) :
    logger.writeMessages messages = String.join (messages.filterMap Message.line?) := by
  induction messages with
  | nil => rfl
  | cons message later ih =>
      have behind := ih fun other among => modest other (List.mem_cons_of_mem _ among)
      rw [writeMessages] at behind ⊢
      rw [List.map_cons, String.join_cons, behind]
      cases message with
      | record record =>
          have held := quiet.write_eq (modest (.record record) List.mem_cons_self)
          rw [writeMessage, held, String.empty_append]
          rfl
      | line text =>
          have kept : (Message.line text :: later).filterMap Message.line? =
              text :: later.filterMap Message.line? := rfl
          rw [kept, String.join_cons]
          rfl

end IsQuiet

end Log.Logger

end LoxTokenizer
