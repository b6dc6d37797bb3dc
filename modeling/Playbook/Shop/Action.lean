import Playbook.Shop.Rule

/-!
# Actions of a shopper

What a script can make a shopper do, and the phrases, in English and in Russian, by which it says
so. Where one opening starts with another, the rule of the longer one comes first.
-/

namespace Playbook.Shop

/-- What a shopper can do. -/
inductive Action where
  /-- Go to an address. -/
  | openPage
  /-- Keep the user name for the password. -/
  | enterUsername
  /-- Fill in user name and password. -/
  | enterPassword
  /-- Log in. -/
  | clickLoginButton
  /-- The page is titled so. -/
  | checkTitle
  /-- Put a product into the cart. -/
  | addToCart
  /-- Go to the cart. -/
  | openCart
  /-- The cart shows a product. -/
  | checkItemInCart
  /-- Leave the cart for the checkout. -/
  | proceedToCheckout
  /-- Keep the first name for the checkout. -/
  | enterFirstName
  /-- Keep the last name for the checkout. -/
  | enterLastName
  /-- Keep the postal code for the checkout. -/
  | enterPostalCode
  /-- Fill in the customer details and go on. -/
  | continueCheckout
  /-- The order shows a product. -/
  | checkItemInOrder
  /-- The totals of the order show a text. -/
  | checkPriceInTotals
  /-- Place the order. -/
  | finishOrder
  /-- The shop confirms the order so. -/
  | checkOrderFinished
  /-- Open the menu. -/
  | openMenu
  /-- Log out. -/
  | logout
  /-- Keep the price of a product under a name. -/
  | rememberPrice
  /-- The cart holds so many items. -/
  | checkItemsCount
  deriving DecidableEq, Repr

/-- The phrases of every action, in the order in which they are tried. -/
def rules : List (Rule Action) :=
  [⟨.openPage, [⟨"Open page", none⟩, ⟨"Открыть страницу", none⟩]⟩,
    ⟨.enterUsername, [⟨"Enter username", none⟩, ⟨"Ввести имя пользователя", none⟩]⟩,
    ⟨.enterPassword, [⟨"Enter password", none⟩, ⟨"Ввести пароль", none⟩]⟩,
    ⟨.clickLoginButton, [⟨"Click login button", none⟩, ⟨"Нажать на кнопку входа", none⟩]⟩,
    ⟨.checkTitle, [⟨"Should see title", none⟩, ⟨"Должен увидеть заголовок", none⟩]⟩,
    ⟨.addToCart, [⟨"Add product", some "to cart"⟩, ⟨"Добавить товар", some "в корзину"⟩]⟩,
    ⟨.openCart, [⟨"Open cart", none⟩, ⟨"Открыть корзину", none⟩]⟩,
    ⟨.checkItemInCart,
      [⟨"Should see product in cart", none⟩,
        ⟨"Должен увидеть товар", some "в корзине"⟩]⟩,
    ⟨.proceedToCheckout, [⟨"Proceed to checkout", none⟩, ⟨"Перейти к оформлению заказа", none⟩]⟩,
    ⟨.enterFirstName, [⟨"Enter first name", none⟩, ⟨"Ввести имя", none⟩]⟩,
    ⟨.enterLastName, [⟨"Enter last name", none⟩, ⟨"Ввести фамилию", none⟩]⟩,
    ⟨.enterPostalCode, [⟨"Enter postal code", none⟩, ⟨"Ввести почтовый индекс", none⟩]⟩,
    ⟨.continueCheckout, [⟨"Continue checkout", none⟩, ⟨"Продолжить оформление", none⟩]⟩,
    ⟨.checkItemInOrder,
      [⟨"Should see product in order", none⟩,
        ⟨"Должен увидеть товар", some "в заказе"⟩]⟩,
    ⟨.checkPriceInTotals,
      [⟨"Should see in order totals", none⟩,
        ⟨"Должен увидеть", some "в итогах заказа"⟩]⟩,
    ⟨.finishOrder, [⟨"Finish order", none⟩, ⟨"Завершить заказ", none⟩]⟩,
    ⟨.checkOrderFinished,
      [⟨"Should see order completion message", none⟩,
        ⟨"Должен увидеть сообщение о завершении", none⟩]⟩,
    ⟨.openMenu, [⟨"Open menu", none⟩, ⟨"Открыть меню", none⟩]⟩,
    ⟨.logout, [⟨"Logout", none⟩, ⟨"Выйти из системы", none⟩]⟩,
    ⟨.rememberPrice, [⟨"Remember product price", none⟩, ⟨"Запомнить цену товара", none⟩]⟩,
    ⟨.checkItemsCount,
      [⟨"Should see number of items", none⟩,
        ⟨"Должен увидеть количество товаров", none⟩]⟩
  ]

/-- What an action text means. -/
def Action.ofText? (action : String) : Option Action := meaning? rules action

/-- The key of a product in the addresses of its buttons: its name in lower case with hyphens for
spaces. -/
def productKey (name : String) : String :=
  String.ofList ((lowered name).map fun c => if c = ' ' then '-' else c)

end Playbook.Shop
