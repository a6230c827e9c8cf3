import Migrations.Name.Words

namespace Migrations.Name

def irregulars : List (Text × Text) :=
  [("person", "people"), ("child", "children"), ("man", "men"), ("woman", "women"),
    ("foot", "feet"), ("tooth", "teeth"), ("goose", "geese"), ("mouse", "mice")]

/-- Singulars in `ie`, whose plurals would otherwise lose the `e` again. -/
def ieSingulars : List Text :=
  ["movie", "cookie", "rookie", "zombie", "calorie", "hoodie", "selfie", "brownie", "genie",
    "pie", "tie", "lie"]

/-- Plural endings whose last two letters are the plural mark. -/
def esEndings : List Text := ["sses", "shes", "ches", "xes", "zes", "uses"]

/-- Endings that look plural and are not. -/
def singularEndings : List Text := ["ss", "us", "is"]

def hissingEndings : List Text := ["s", "x", "z", "ch", "sh"]

def endsInOneOf (endings : List Text) (word : Text) : Bool :=
  endings.any fun ending => ending.isSuffixOf word

def ieSingular? (word : Text) : Option Text :=
  (Text.dropSuffix? word "s").filter (ieSingulars.contains ·)

def iesStem? (word : Text) : Option Text :=
  (Text.dropSuffix? word "ies").filter (· ≠ [])

def sStem? (word : Text) : Option Text :=
  (Text.dropSuffix? word "s").filter (· ≠ [])

def singularWord (word : Text) : Text :=
  match irregulars.find? (·.2 = word) with
  | some (singular, _) => singular
  | none =>
    if irregulars.any (·.1 = word) then word
    else match ieSingular? word with
      | some singular => singular
      | none =>
        match iesStem? word with
        | some stem => stem ++ ['y']
        | none =>
          if endsInOneOf esEndings word then word.take (word.length - 2)
          else if endsInOneOf singularEndings word then word
          else (sStem? word).getD word

/-- The stem in front of a final `y` that follows a character other than a vowel. -/
def consonantYStem? (word : Text) : Option Text :=
  (Text.dropSuffix? word "y").filter fun stem =>
    stem.getLast?.any fun c => c ∉ ("aeiou" : Text)

def pluralWord (word : Text) : Text :=
  if word = [] then []
  else match irregulars.find? (·.1 = word) with
    | some (_, plural) => plural
    | none =>
      if endsInOneOf hissingEndings word then word ++ "es"
      else match consonantYStem? word with
        | some stem => stem ++ "ies"
        | none =>
          match Text.dropSuffix? word "fe" with
          | some stem => stem ++ "ves"
          | none => word ++ "s"

/-- A word whose singular differs from itself counts as plural already. -/
def isPlural (word : Text) : Bool := singularWord word ≠ word

def mapLastWord (f : Text → Text) (name : Text) : Text :=
  match Text.splitLast? '_' name with
  | some (head, last) => head ++ '_' :: f last
  | none => f name

def pluralize (name : Text) : Text :=
  mapLastWord (fun word => if isPlural word then word else pluralWord word) (snake name)

def singularize (name : Text) : Text := mapLastWord singularWord (snake name)

def className (migration : Text) : Text := pascal migration

def modelName (table : Text) : Text := pascal (singularize table)

def foreignTable (column : Text) : Text :=
  let column := snake column
  pluralize ((Text.dropSuffix? column "_id").getD column)

end Migrations.Name
