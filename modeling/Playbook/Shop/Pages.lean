import Playbook.Browser.Bench
import Playbook.Text.Blank
import Playbook.Text.Search

/-!
# Pages of the shop

What can be done and checked on the pages of the shop, in terms of calls on the open page. A check
that fails is an assertion fault.
-/

namespace Playbook.Shop

open Browser

variable {β : Type}

/-- A failed check. -/
def assertionFailed {σ α : Type} (message : String) : Play σ α :=
  throw (.fault ⟨.assertion, message⟩)

/-- Go to an address and wait until the network is idle. -/
def goTo (rig : Rig β) (page : Page) (url : String) : Play (Bench β) Unit :=
  rig.call (.goto page.handle url)

/-- Click an element. -/
def click (rig : Rig β) (page : Page) (selector : String) : Play (Bench β) Unit :=
  rig.call (.click page.handle selector)

/-- Fill a field. -/
def fill (rig : Rig β) (page : Page) (selector : String) (v : Value) : Play (Bench β) Unit :=
  rig.call (.fill page.handle selector v)

/-- The text of an element without the blanks at its ends; empty when it has none. -/
def textOf (rig : Rig β) (page : Page) (selector : String) : Play (Bench β) String := do
  return Text.strip ((← rig.call (.readText page.handle selector)).getD "")

/-- The title of the page. -/
def title (rig : Rig β) (page : Page) : Play (Bench β) (Option String) :=
  rig.call (.readTitle page.handle)

/-- An element shows exactly a text. -/
def requireText (rig : Rig β) (page : Page) (selector expected : String) :
    Play (Bench β) Unit := do
  let actual ← textOf rig page selector
  if actual ≠ expected then
    assertionFailed ("Expected '" ++ expected ++ "' but got '" ++ actual ++ "'")

/-- An element shows a text among others. -/
def requireTextWithin (rig : Rig β) (page : Page) (selector expected : String) :
    Play (Bench β) Unit := do
  let actual ← textOf rig page selector
  if !Text.occursIn expected.toList actual.toList then
    assertionFailed ("Expected '" ++ expected ++ "' to be contained in '" ++ actual ++ "'")

/-- Fill in user name and password. -/
def enterCredentials (rig : Rig β) (page : Page) (username password : Value) :
    Play (Bench β) Unit := do
  fill rig page "#user-name" username
  fill rig page "#password" password

/-- Press the login button once it is visible. -/
def pressLogin (rig : Rig β) (page : Page) : Play (Bench β) Unit := do
  rig.call (.awaitVisible page.handle "#login-button")
  click rig page "#login-button"

/-- Put the product with a key into the cart. -/
def addToCart (rig : Rig β) (page : Page) (key : String) : Play (Bench β) Unit :=
  click rig page ("#add-to-cart-" ++ key)

/-- Go to the cart. -/
def openCart (rig : Rig β) (page : Page) : Play (Bench β) Unit :=
  click rig page ".shopping_cart_link"

/-- The page is titled so. -/
def requireTitle (rig : Rig β) (page : Page) (expected : String) : Play (Bench β) Unit :=
  requireText rig page ".title" expected

/-- The price of the first product whose text holds a name, without the blanks at its ends. -/
def priceOf (rig : Rig β) (page : Page) (product : String) : Play (Bench β) String := do
  let text ←
    rig.call (.readItemText page.handle ".inventory_item" ".inventory_item_price" product)
  return Text.strip (text.getD "")

/-- The first product shown, in the cart or in the order, is named so. -/
def requireItem (rig : Rig β) (page : Page) (name : String) : Play (Bench β) Unit :=
  requireText rig page ".inventory_item_name" name

/-- Leave the cart for the checkout. -/
def checkOut (rig : Rig β) (page : Page) : Play (Bench β) Unit :=
  click rig page "#checkout"

/-- The cart holds so many items. -/
def requireCount (rig : Rig β) (page : Page) (expected : Int) : Play (Bench β) Unit := do
  let actual ← rig.call (.count page.handle ".cart_item")
  if actual ≠ expected then
    assertionFailed
      ("Expected " ++ toString expected ++ " items in the cart but found " ++ toString actual)

/-- Fill in the customer's details and go on. -/
def enterDetails (rig : Rig β) (page : Page) (firstName lastName postalCode : Value) :
    Play (Bench β) Unit := do
  fill rig page "#first-name" firstName
  fill rig page "#last-name" lastName
  fill rig page "#postal-code" postalCode
  click rig page "#continue"

/-- The totals of the order show a text. -/
def requireInTotals (rig : Rig β) (page : Page) (expected : String) : Play (Bench β) Unit :=
  requireTextWithin rig page ".summary_subtotal_label" expected

/-- Place the order. -/
def finishOrder (rig : Rig β) (page : Page) : Play (Bench β) Unit :=
  click rig page "#finish"

/-- The shop confirms the order so. -/
def requireConfirmation (rig : Rig β) (page : Page) (message : String) : Play (Bench β) Unit :=
  requireText rig page ".complete-header" message

/-- Open the menu. -/
def openMenu (rig : Rig β) (page : Page) : Play (Bench β) Unit :=
  click rig page "#react-burger-menu-btn"

/-- Log out. -/
def logOut (rig : Rig β) (page : Page) : Play (Bench β) Unit :=
  click rig page "#logout_sidebar_link"

end Playbook.Shop
