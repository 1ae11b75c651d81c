import CaptureControl.Exposition.Page
import CaptureControl.Session
import CaptureControl.Text.Content

/-!
# Monitors

Where the truth of attributes is looked up: on a metrics page that is fetched for every look-up,
among samples at hand, or by a probe of the surroundings.

A page that is not there yet, because its server does not answer or does not know it, is told apart
from a page that cannot be read: the first may still come, the second is a fault to report.
-/

namespace CaptureControl

/-- Where attributes are looked up. -/
inductive Monitor where
  /-- On a metrics page. -/
  | page (address : String)
  /-- Among the samples of a registry, which are collected for every look-up. -/
  | registry
  /-- By a probe, which may have to be closed. -/
  | probe (closable : Bool)

namespace Monitor

variable {σ τ : Type}

/-- The monitor of a metrics page; the address is not empty. -/
def ofAddress? (address : String) : Except Misconfiguration Monitor :=
  if address.isEmpty then .error .address else .ok (.page address)

/-- What a page that arrived says of an attribute. -/
def readAttribute (address object name : String) (page : Page) : Except (Fault τ) Bool :=
  if page.status = 404 then .error (.page address .unregistered)
  else if page.status < 200 ∨ 300 ≤ page.status then .error (.page address (.status page.status))
  else match Text.readContent page.mediaType page.octets with
    | .error .refused => .error (.page address .malformed)
    | .error .octets => .error .octetCoding
    | .error .letters => .error .letterCoding
    | .error (.unordered numbered) => .error (.unorderedParts numbered)
    | .ok body =>
      match Exposition.readPage body with
      | .error .malformed => .error (.page address .malformed)
      | .error .blankName => .error .blankName
      | .error .timestamp => .error .timestamp
      | .ok families => findAttribute families object name

/-- Fetches a metrics page. A server that does not answer leaves the page unreachable, and any other
failure of the transfer makes it unreadable. -/
def fetch (address : String) : Act σ τ Page :=
  try Act.ask (.page address)
  catch e =>
    throw (if e.isA .refused then .page address .unreachable
      else if e.isA .transfer then .page address .transfer
      else e)

/-- Looks up an attribute of a metrics object. -/
def lookup (m : Monitor) (object name : String) : Act σ τ Bool :=
  match m with
  | probe _ => Act.ask (.lookup object name)
  | registry => do
    -- The name is read first: nothing is collected for a malformed one.
    let _ ← Act.ofExcept (ObjectName.parse object)
    Act.ofExcept (findAttribute (← Act.ask .collect) object name)
  | page address => do
    Act.note (.reading address object name)
    if (← Act.session).metricsClosed then throw .closedPage
    else Act.ofExcept (readAttribute address object name (← fetch address))

/-- Closes a monitor that has to be closed. No page is fetched after that. -/
def close (m : Monitor) : Act σ τ Unit :=
  match m with
  | probe true => Act.ask .closeMetrics
  | probe false | registry => return ()
  | page _ => Act.modify fun s => { s with metricsClosed := true }

end Monitor

end CaptureControl
