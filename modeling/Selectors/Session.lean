import Selectors.Printer

namespace Selectors

/-- What may be asked of one reporter, in any order. -/
inductive Call
  | warn (w : Warning)
  | clear
  | printToken (t : Token)
  | printSequence (s : Sequence)
  | printList (list : SelectorList)

inductive Reply
  | printed (isNew : Bool)
  | cleared
  | text (s : String)
  deriving DecidableEq

namespace Reporter

def reply (printed : Except Defect (String × Reporter)) : Except Defect (Reply × Reporter) := do
  let (s, r) ← printed
  return (.text s, r)

/-- The reply to one call. Afterwards `printed` holds the warnings of this call alone. -/
def call (r : Reporter) : Call → Except Defect (Reply × Reporter)
  | .warn w => .ok (.printed (r.isNew w), r.flush.report w)
  | .clear => .ok (.cleared, r.flush.clear)
  | .printToken t => reply (r.flush.printToken t)
  | .printSequence s => reply (r.flush.printSequence s)
  | .printList list => reply (r.flush.printList list)

end Reporter

end Selectors
