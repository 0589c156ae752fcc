/-!
# Keywords of feature files

A feature file is written in one language, English unless a `# language:` line on top names
another. Each language gives the words for every part of the file; several words may name one
part, and the first word in the list that the text starts with is the one read. The step
words include `*`, which reads as a `Given` step. A step word carries the space that separates
it from the step text, unless it ends in an apostrophe (`Lorsqu'il`), so `Gegeben seien` is not
read as `Gegeben sei` and a line that merely starts with a step word (`Andrew`) is not a step.

Descriptions run until a line starts with a tag or with a keyword that may follow them; the
keywords that end a description depend on where it stands.

* `Keywords`, `keywordsOf?`;
* `Keywords.endFeatureText`, `endScenarioText`, `endBackgroundText`, `endRuleText`.
-/

namespace FeatureDocs.Gherkin

/-- The keywords of one language. -/
structure Keywords where
  feature : List String
  background : List String
  rule : List String
  scenario : List String
  scenarioOutline : List String
  examples : List String
  givenWords : List String
  whenWords : List String
  thenWords : List String
  andWords : List String
  butWords : List String
deriving Repr, Inhabited

/-- The step keywords of every kind. -/
def Keywords.steps (k : Keywords) : List String := k.givenWords ++ k.whenWords ++ k.thenWords ++ k.andWords ++ k.butWords

/-- The keywords that end a feature's description. -/
def Keywords.endFeatureText (k : Keywords) : List String :=
  k.background ++ k.scenario ++ k.scenarioOutline ++ k.rule

/-- The keywords that end a rule's description. -/
def Keywords.endRuleText (k : Keywords) : List String :=
  k.background ++ k.scenario ++ k.scenarioOutline ++ k.rule

/-- The keywords that end a scenario's description. -/
def Keywords.endScenarioText (k : Keywords) : List String :=
  k.steps ++ k.scenario ++ k.scenarioOutline ++ k.examples ++ k.rule

/-- The keywords that end a background's description. -/
def Keywords.endBackgroundText (k : Keywords) : List String :=
  k.steps ++ k.scenario ++ k.scenarioOutline ++ k.examples ++ k.rule

/-- English. -/
def english : Keywords where
  feature := ["Feature", "Business Need", "Ability"]
  background := ["Background"]
  rule := ["Rule"]
  scenario := ["Example", "Scenario"]
  scenarioOutline := ["Scenario Outline", "Scenario Template"]
  examples := ["Examples", "Scenarios"]
  givenWords := ["* ", "Given "]
  whenWords := ["* ", "When "]
  thenWords := ["* ", "Then "]
  andWords := ["* ", "And "]
  butWords := ["* ", "But "]

/-- French. -/
def french : Keywords where
  feature := ["Fonctionnalité"]
  background := ["Contexte"]
  rule := ["Règle"]
  scenario := ["Exemple", "Scénario"]
  scenarioOutline := ["Plan du scénario", "Plan du Scénario"]
  examples := ["Exemples"]
  givenWords := ["* ", "Soit ", "Sachant que ", "Sachant qu\x27", "Sachant ", "Etant donné que ", "Etant donné qu\x27",
    "Etant donné ", "Etant donnée ", "Etant donnés ", "Etant données ", "Étant donné que ",
    "Étant donné qu\x27", "Étant donné ", "Étant donnée ", "Étant donnés ", "Étant données "]
  whenWords := ["* ", "Quand ", "Lorsque ", "Lorsqu\x27"]
  thenWords := ["* ", "Alors ", "Donc "]
  andWords := ["* ", "Et que ", "Et qu\x27", "Et "]
  butWords := ["* ", "Mais que ", "Mais qu\x27", "Mais "]

/-- German. -/
def german : Keywords where
  feature := ["Funktionalität", "Funktion"]
  background := ["Grundlage", "Hintergrund", "Voraussetzungen", "Vorbedingungen"]
  rule := ["Rule", "Regel"]
  scenario := ["Beispiel", "Szenario"]
  scenarioOutline := ["Szenariogrundriss", "Szenarien"]
  examples := ["Beispiele"]
  givenWords := ["* ", "Angenommen ", "Gegeben sei ", "Gegeben seien "]
  whenWords := ["* ", "Wenn "]
  thenWords := ["* ", "Dann "]
  andWords := ["* ", "Und "]
  butWords := ["* ", "Aber "]

/-- Spanish. -/
def spanish : Keywords where
  feature := ["Característica", "Necesidad del negocio", "Requisito"]
  background := ["Antecedentes"]
  rule := ["Regla", "Regla de negocio"]
  scenario := ["Ejemplo", "Escenario"]
  scenarioOutline := ["Esquema del escenario"]
  examples := ["Ejemplos"]
  givenWords := ["* ", "Dado ", "Dada ", "Dados ", "Dadas "]
  whenWords := ["* ", "Cuando "]
  thenWords := ["* ", "Entonces "]
  andWords := ["* ", "Y ", "E "]
  butWords := ["* ", "Pero "]

/-- Italian. -/
def italian : Keywords where
  feature := ["Funzionalità", "Esigenza di Business", "Abilità"]
  background := ["Contesto"]
  rule := ["Regola"]
  scenario := ["Esempio", "Scenario"]
  scenarioOutline := ["Schema dello scenario"]
  examples := ["Esempi"]
  givenWords := ["* ", "Dato ", "Data ", "Dati ", "Date "]
  whenWords := ["* ", "Quando "]
  thenWords := ["* ", "Allora "]
  andWords := ["* ", "E "]
  butWords := ["* ", "Ma "]

/-- Dutch. -/
def dutch : Keywords where
  feature := ["Functionaliteit"]
  background := ["Achtergrond"]
  rule := ["Rule"]
  scenario := ["Voorbeeld", "Scenario"]
  scenarioOutline := ["Abstract Scenario"]
  examples := ["Voorbeelden"]
  givenWords := ["* ", "Gegeven ", "Stel "]
  whenWords := ["* ", "Als ", "Wanneer "]
  thenWords := ["* ", "Dan "]
  andWords := ["* ", "En "]
  butWords := ["* ", "Maar "]

/-- Portuguese. -/
def portuguese : Keywords where
  feature := ["Funcionalidade", "Característica", "Caracteristica"]
  background := ["Contexto", "Cenário de Fundo", "Cenario de Fundo", "Fundo"]
  rule := ["Regra"]
  scenario := ["Exemplo", "Cenário", "Cenario"]
  scenarioOutline := ["Esquema do Cenário", "Esquema do Cenario", "Delineação do Cenário",
    "Delineacao do Cenario"]
  examples := ["Exemplos", "Cenários", "Cenarios"]
  givenWords := ["* ", "Dado ", "Dada ", "Dados ", "Dadas "]
  whenWords := ["* ", "Quando "]
  thenWords := ["* ", "Então ", "Entao "]
  andWords := ["* ", "E "]
  butWords := ["* ", "Mas "]

/-- The keywords of a language code, if the language is known. -/
def keywordsOf? : String → Option Keywords
  | "en" => some english
  | "fr" => some french
  | "de" => some german
  | "es" => some spanish
  | "it" => some italian
  | "nl" => some dutch
  | "pt" => some portuguese
  | _ => none

end FeatureDocs.Gherkin
