import Playbook.Disk.Path
import Playbook.Failure

/-!
# Calls to the browser

Everything a run asks of a browser is a call. A call that hands something out (the driver, a
browser, a context, a page) names it by a handle, and calls on that thing carry the handle, so a
list of calls tells what was opened and what became of it.
-/

namespace Playbook.Browser

/-- Something that was handed out, by the place of its call among all calls. -/
abbrev Handle := Nat

/-- What a run asks of a browser. -/
inductive Call where
  | startDriver
  | launch (driver : Handle) (headless : Bool) (slowMo : Number)
  /-- A context, with a directory for videos or without. -/
  | openContext (browser : Handle) (videoDirectory : Option Path)
  | startTracing (context : Handle)
  | openPage (context : Handle)
  | goto (page : Handle) (url : String)
  | click (page : Handle) (selector : String)
  | fill (page : Handle) (selector : String) (value : Value)
  | awaitVisible (page : Handle) (selector : String)
  | readText (page : Handle) (selector : String)
  | readTitle (page : Handle)
  | count (page : Handle) (selector : String)
  /-- The text of a part of the first item in which a text occurs. -/
  | readItemText (page : Handle) (item part : String) (containing : String)
  | saveScreenshot (page : Handle) (path : Path)
  | closePage (page : Handle)
  | saveVideo (page : Handle) (path : Path)
  | saveTrace (context : Handle) (path : Path)
  | closeContext (context : Handle)
  | closeBrowser (browser : Handle)
  | stopDriver (driver : Handle)
  deriving Repr

namespace Call

/-- What a call is answered with. A page tells whether it records a video; an element without
text has none, nor need a page have a title. -/
@[reducible] def Reply : Call → Type
  | .openPage _ => Bool
  | .readText _ _ => Option String
  | .readTitle _ => Option String
  | .count _ _ => Int
  | .readItemText _ _ _ _ => Option String
  | _ => Unit

/-- What a call is made on. -/
def target? : Call → Option Handle
  | .startDriver => none
  | .launch h _ _ | .openContext h _ | .startTracing h | .openPage h | .goto h _ | .click h _
  | .fill h _ _ | .awaitVisible h _ | .readText h _ | .readTitle h | .count h _
  | .readItemText h _ _ _ | .saveScreenshot h _ | .closePage h | .saveVideo h _
  | .saveTrace h _ | .closeContext h | .closeBrowser h | .stopDriver h => some h

/-- What a call is known by, whatever it is made on. -/
def label : Call → String
  | .startDriver => "driver.start"
  | .launch _ _ _ => "launch"
  | .openContext _ _ => "new_context"
  | .startTracing _ => "tracing.start"
  | .openPage _ => "new_page"
  | .goto _ url => "goto " ++ url
  | .click _ selector => "click " ++ selector
  | .fill _ selector _ => "fill " ++ selector
  | .awaitVisible _ selector => "wait " ++ selector
  | .readText _ selector => "text " ++ selector
  | .readTitle _ => "title"
  | .count _ selector => "count " ++ selector
  | .readItemText _ _ part _ => "item_text " ++ part
  | .saveScreenshot _ _ => "screenshot"
  | .closePage _ => "page.close"
  | .saveVideo _ _ => "video.save_as"
  | .saveTrace _ _ => "tracing.stop"
  | .closeContext _ => "context.close"
  | .closeBrowser _ => "browser.close"
  | .stopDriver _ => "driver.stop"

end Call

/-- What can become of a call instead of an answer. -/
inductive Mishap where
  | fault (fault : Fault)
  | action (error : ActionError)
  deriving Repr

/-- A mishap ends a step. -/
def Mishap.failure : Mishap → Failure
  | .fault f => .fault f
  | .action e => .action e

/-- A call that was made, and whether it was answered. -/
structure Exchange where
  call : Call
  answered : Bool
  deriving Repr

end Playbook.Browser
