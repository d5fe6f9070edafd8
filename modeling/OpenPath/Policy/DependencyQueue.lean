/-
# Queues of runtime dependencies on both agents

A pass over the queue is meant to merge each valid request before its file goes, and to
leave no file behind that was in its batch, whatever bytes the files hold. On Linux a file
that the helper cannot read stays and stops every batch that it is in, and a batch for which
the overlay has no room loses what is cut off. The Windows agent stops in the same way at a
file that is no JSON, and otherwise removes the files before it writes what they ask for.
-/

import OpenPath.Linux.DependencyQueue
import OpenPath.Policy.DependencyBlocks
import OpenPath.Windows.DependencyQueue

namespace OpenPath.Policy

open Foundation (Spool)

section Examples

/-- A byte that is not in any text. -/
def badBytes : Bytes := [0xff]

/-- The request for the script, as it stands in a file. -/
def goodBytes : Bytes :=
  Utf8.encode
    "\x7b\"anchorHost\":\"s.io\",\"dependencyHost\":\"a.x.io\",\"requestType\":\"script\"\x7d".toList

/-- The parsers as they read these files. -/
def loadsGood (line : Text) : Linux.Overlay.Loaded :=
  if Utf8.encode line = goodBytes then .value (.object scriptRequest) else .decodeError

def readGood (bytes : Bytes) : Option (List (Option JsonObject)) :=
  if bytes = goodBytes then some [some scriptRequest] else none

def linuxArguments : Linux.Overlay.QueueArguments where
  processLimit := 100
  update :=
    { policy := Linux.Overlay.policyArguments ["s.io".toList] [] []
      ttlDays := 7
      capacity := 300 }

def windowsArguments : Windows.Overlay.UpdateArguments where
  context := Windows.Overlay.policyContext ["s.io".toList] [] []
  capacity := 300
  ttlDays := 7

end Examples

end OpenPath.Policy
