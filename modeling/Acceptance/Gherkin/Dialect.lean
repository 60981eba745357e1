/-!
# Dialects of feature files

Feature files are written in several human languages. A dialect lists, for each part of a file, the
words that may open it.

* `Dialect` is one language, `Dialect.all` lists the known ones.
* `Dialect.named?` finds a dialect by the name that a file gives; `Dialect.english` is used without
  one.
-/

namespace Acceptance.Gherkin

/-- The words of a language, in the order in which they are tried. -/
structure Dialect where
  name : String
  feature : List String
  background : List String
  rule : List String
  scenario : List String
  outline : List String
  examples : List String
  given : List String
  when : List String
  then_ : List String
  and : List String
  but : List String
deriving DecidableEq, Repr

namespace Dialect

/-- English. -/
def english : Dialect where
  name := "en"
  feature := ["Feature", "Business Need", "Ability"]
  background := ["Background"]
  rule := ["Rule"]
  scenario := ["Example", "Scenario"]
  outline := ["Scenario Outline", "Scenario Template"]
  examples := ["Examples", "Scenarios"]
  given := ["* ", "Given "]
  when := ["* ", "When "]
  then_ := ["* ", "Then "]
  and := ["* ", "And "]
  but := ["* ", "But "]

/-- French. -/
def french : Dialect where
  name := "fr"
  feature := ["Fonctionnalité"]
  background := ["Contexte"]
  rule := ["Règle"]
  scenario := ["Exemple", "Scénario"]
  outline := ["Plan du scénario", "Plan du Scénario"]
  examples := ["Exemples"]
  given := ["* ", "Soit ", "Sachant que ", "Sachant qu'", "Sachant ", "Etant donné que ",
    "Etant donné qu'", "Etant donné ", "Etant donnée ", "Etant donnés ", "Etant données ",
    "Étant donné que ", "Étant donné qu'", "Étant donné ", "Étant donnée ", "Étant donnés ",
    "Étant données "]
  when := ["* ", "Quand ", "Lorsque ", "Lorsqu'"]
  then_ := ["* ", "Alors ", "Donc "]
  and := ["* ", "Et que ", "Et qu'", "Et "]
  but := ["* ", "Mais que ", "Mais qu'", "Mais "]

/-- German. -/
def german : Dialect where
  name := "de"
  feature := ["Funktionalität", "Funktion"]
  background := ["Grundlage", "Hintergrund", "Voraussetzungen", "Vorbedingungen"]
  rule := ["Rule", "Regel"]
  scenario := ["Beispiel", "Szenario"]
  outline := ["Szenariogrundriss", "Szenarien"]
  examples := ["Beispiele"]
  given := ["* ", "Angenommen ", "Gegeben sei ", "Gegeben seien "]
  when := ["* ", "Wenn "]
  then_ := ["* ", "Dann "]
  and := ["* ", "Und "]
  but := ["* ", "Aber "]

/-- Chinese in simplified characters. -/
def chinese : Dialect where
  name := "zh-CN"
  feature := ["功能"]
  background := ["背景"]
  rule := ["Rule"]
  scenario := ["场景", "剧本"]
  outline := ["场景大纲", "剧本大纲"]
  examples := ["例子"]
  given := ["* ", "假如", "假设", "假定"]
  when := ["* ", "当"]
  then_ := ["* ", "那么"]
  and := ["* ", "而且", "并且", "同时"]
  but := ["* ", "但是"]

/-- Russian. -/
def russian : Dialect where
  name := "ru"
  feature := ["Функция", "Функциональность", "Функционал", "Свойство"]
  background := ["Предыстория", "Контекст"]
  rule := ["Правило"]
  scenario := ["Пример", "Сценарий"]
  outline := ["Структура сценария", "Шаблон сценария"]
  examples := ["Примеры"]
  given := ["* ", "Допустим ", "Дано ", "Пусть "]
  when := ["* ", "Когда ", "Если "]
  then_ := ["* ", "То ", "Затем ", "Тогда "]
  and := ["* ", "И ", "К тому же ", "Также "]
  but := ["* ", "Но ", "А ", "Иначе "]

/-- The words of formal texts. -/
def formal : Dialect where
  name := "formal"
  feature := ["Section"]
  background := ["Context"]
  rule := ["Rule"]
  scenario := ["Proof", "Evidence"]
  outline := ["Demonstration"]
  examples := ["Examples"]
  given := ["Given"]
  when := ["When"]
  then_ := ["Then"]
  and := ["*", "And"]
  but := ["But"]

/-- The known dialects. -/
def all : List Dialect := [english, french, german, chinese, russian, formal]

/-- The dialect with a name. -/
def named? (name : String) : Option Dialect :=
  all.find? fun d => d.name = name

end Dialect

end Acceptance.Gherkin
