import Playbook.Browser.Bench

/-!
# Browser sessions

A session opens driver, browser, context and page when it is first needed and closes all of them
at the end. Opening may fail half way and leaves open what was opened. Closing cannot fail: every
stage is tried whatever became of those before it, and nothing is open afterwards. A video can only
be saved once its page is closed, so a failure reserves a name and closing saves the video under it.
-/

namespace Playbook.Rig

open Browser

variable {β : Type}

/-- The stamp of an artifact: the given one, unless it is empty, or one made of the time. -/
def stampOr (rig : Rig β) (given : Option String) : Play (Bench β) String := do
  match given.filter fun s => !s.isEmpty with
  | some s => return s
  | none => return (← rig.now).stamp

/-- Open a page and make the page objects for it, unless there are some. The page that they act on
is handed out. -/
def start (rig : Rig β) : Play (Bench β) Page := do
  match (← opened).pageObjects with
  | some page => return page
  | none =>
    let options := rig.settings.browser
    let videos := rig.settings.videos
    let (driver, _) ← rig.obtain .startDriver
    modifyOpened fun o => { o with driver := some driver }
    let (browser, _) ← rig.obtain (.launch driver options.headless options.slowMo)
    modifyOpened fun o => { o with browser := some browser }
    if videos.enabled then onDisk (Disk.ensureDirectories videos.directory)
    let (context, _) ←
      rig.obtain (.openContext browser (if videos.enabled then some videos.directory else none))
    modifyOpened fun o => { o with context := some context }
    if options.tracePath.isSome then rig.call (.startTracing context)
    let (handle, recordsVideo) ← rig.obtain (.openPage context)
    let page : Page := ⟨handle, recordsVideo⟩
    modifyOpened fun o => { o with page := some page, pageObjects := some page }
    Play.report .info .session
      ("Browser session started (headless=" ++ (if options.headless then "True" else "False") ++
        ")")
    return page

/-- The title of the open page; none when there is no page or it has none to tell. -/
def pageTitle (rig : Rig β) : Play (Bench β) (Option String) := do
  match (← opened).page with
  | none => return none
  | some page =>
    match ← (Routine.attempt (rig.call (.readTitle page.handle))).toPlay with
    | .ok title => return title
    | .error e =>
      Play.report .debug .session ("Failed to read page title: " ++ e.message)
      return none

/-- Save a screenshot of the open page and tell its path; none when there is nothing to save or
the browser refuses. -/
def captureScreenshot (rig : Rig β) (stamp : Option String) : Play (Bench β) (Option String) := do
  let screenshots := rig.settings.screenshots
  match (← opened).page with
  | none => return none
  | some page =>
    if !screenshots.enabled then return none
    onDisk (Disk.ensureDirectories screenshots.directory)
    let path :=
      screenshots.directory.join (.ofText ("error-step-" ++ (← rig.stampOr stamp) ++ ".png"))
    match ← (Routine.attempt (rig.call (.saveScreenshot page.handle path))).toPlay with
    | .ok () =>
      Play.report .info .session ("Screenshot saved to " ++ path.text)
      return some path.text
    | .error e =>
      Play.report .error .session ("Screenshot capture failed: " ++ e.message)
      return none

/-- Reserve the video of a failed test and tell its path; the first reservation counts. -/
def reserveFailureVideo (rig : Rig β) (stamp : Option String) :
    Play (Bench β) (Option String) := do
  let videos := rig.settings.videos
  let o ← opened
  if o.page.isNone || !videos.enabled || videos.recording != .failed then return none
  match o.reservedVideo with
  | some path => return some path.text
  | none =>
    let path :=
      videos.directory.join (.ofText ("error-test-" ++ (← rig.stampOr stamp) ++ ".webm"))
    modifyOpened fun o => { o with reservedVideo := some path }
    return some path.text

/-- Where the video of the open page is to be saved. -/
def videoTarget (rig : Rig β) : Routine (Bench β) (Option Path) := do
  let videos := rig.settings.videos
  let o := (← get).world.opened
  if !videos.enabled || o.page.isNone then return none
  if videos.recording = .all then
    let stamp := (← Routine.readClock rig.clock).stamp
    return some (videos.directory.join (.ofText ("test-" ++ stamp ++ ".webm")))
  return o.reservedVideo

/-- One stage of closing; whether it went through. -/
def closingStage (rig : Rig β) (name : String) (c : Call) : Routine (Bench β) Bool := do
  match ← Routine.attempt (rig.call c) with
  | .ok _ => return true
  | .error e =>
    Routine.report .error .session
      ("Session teardown failed at " ++ name ++ ": " ++ e.message)
    return false

/-- Close the page, and save its video if it has one and there is a place for it. -/
def closePage (rig : Rig β) (target : Option Path) : Option Page → Routine (Bench β) Unit
  | none => pure ()
  | some page => do
    let _ ← rig.closingStage "page close" (.closePage page.handle)
    match page.recordsVideo, target with
    | true, some path =>
      if ← rig.closingStage "video save" (.saveVideo page.handle path) then
        Routine.report .info .session ("Video saved to " ++ path.text)
    | _, _ => pure ()

/-- Close the context, and save its trace first if there is a place for it. -/
def closeContext (rig : Rig β) : Option Handle → Routine (Bench β) Unit
  | none => pure ()
  | some context => do
    if let some path := rig.settings.browser.tracePath then
      let _ ← rig.closingStage "trace save" (.saveTrace context path)
    let _ ← rig.closingStage "context close" (.closeContext context)

/-- Close the browser. -/
def closeBrowser (rig : Rig β) : Option Handle → Routine (Bench β) Unit
  | none => pure ()
  | some browser => do
    let _ ← rig.closingStage "browser close" (.closeBrowser browser)

/-- Stop the driver. -/
def stopDriver (rig : Rig β) : Option Handle → Routine (Bench β) Unit
  | none => pure ()
  | some driver => do
    let _ ← rig.closingStage "playwright stop" (.stopDriver driver)

/-- Close everything that is open. -/
def close (rig : Rig β) : Routine (Bench β) Unit := do
  let target ← rig.videoTarget
  let o := (← get).world.opened
  rig.closePage target o.page
  rig.closeContext o.context
  rig.closeBrowser o.browser
  rig.stopDriver o.driver
  modify fun s => { s with world := { s.world with opened := {} } }

/-- Do something in a session that is closed afterwards, whatever came of it. -/
def within {α : Type} (rig : Rig β) (body : Page → Play (Bench β) α) : Play (Bench β) α := do
  let page ← rig.start
  let outcome ← (Routine.attempt (body page)).toPlay
  rig.close.toPlay
  match outcome with
  | .ok a => return a
  | .error e => throw e

end Playbook.Rig
