import Migrations.Field.Modifier

namespace Migrations

inductive Flaw where
  | missingColumnName
  | columnName (name : Text)
  | columnType (token : Text)
  | valueNotTaken (modifier : Modifier)
  | valueRequired (modifier : Modifier)
  | cascadeWithoutKey
  | blankMigrationName
  | tableName (name : Text)
  | relatedTableOnCreate (name : Text)
  | relatedTableName (name : Text)
  | pivotSide (name : Text)
  | pivotTwins (name : Text)
  | stated (message : Text)
  deriving DecidableEq, Repr

inductive NameFault where
  | blank
  | noWords
  | noTable
  | unknownVerb (word : Text)
  | flawed (flaw : Flaw)
  | stated (message : Text)
  deriving DecidableEq, Repr

inductive FieldFault where
  | unbalanced
  | missingName
  | missingType
  | unclosedCall
  | argumentsTwice
  | notBoolean (modifier : Modifier) (value : Text)
  | valueMissing (modifier : Modifier)
  | valueBlank (modifier : Modifier)
  | flawed (flaw : Flaw)
  | stated (message : Text)
  deriving DecidableEq, Repr

inductive TemplateFault where
  | malformed
  | missingValue (key : Text)
  | stated (message : Text)
  deriving DecidableEq, Repr

inductive DiskFault where
  | notFound
  | alreadyExists
  | notDirectory
  | isDirectory
  | notText
  | stated (message : Text)
  deriving DecidableEq, Repr

/-- Every error of the library. Fields of a schema are counted from one. -/
inductive Error where
  | invalidName (name : Text) (fault : NameFault)
  | malformedField (index : Nat) (chunk : Text) (fault : FieldFault)
  | unsupportedModifier (index : Nat) (keyword : Text)
  | invalid (flaw : Flaw)
  | templateFailed (template : Text) (fault : TemplateFault)
  | migrationExists (path : Text)
  | disk (fault : DiskFault)
  | fileUnread (path : Text) (fault : DiskFault)
  | fileUnwritten (path : Text) (fault : DiskFault)
  | directoryNotCreated (path : Text) (fault : DiskFault)
  | invalidConfig (explanation : Text)
  | inContext (context message : Text)
  deriving DecidableEq, Repr

def Flaw.message : Flaw → Text
  | missingColumnName => "missing column name"
  | columnName name => "'" ++ name ++ "' is not a valid column name"
  | columnType token => "'" ++ token ++ "' is not a valid column type"
  | valueNotTaken modifier => "modifier '" ++ modifier.keyword ++ "' does not take a value"
  | valueRequired modifier => "modifier '" ++ modifier.keyword ++ "' requires a value"
  | cascadeWithoutKey => "modifier 'cascade' needs a foreign key"
  | blankMigrationName => "Migration name cannot be empty"
  | tableName name => "Table name '" ++ name ++ "' is not a valid identifier"
  | relatedTableOnCreate name =>
    "A create migration cannot reference a related table ('" ++ name ++ "')"
  | relatedTableName name => "Related table name '" ++ name ++ "' is not a valid identifier"
  | pivotSide name => "Pivot table side '" ++ name ++ "' is not a valid identifier"
  | pivotTwins name => "A pivot table needs two different tables, got '" ++ name ++ "' twice"
  | stated message => message

def NameFault.message : NameFault → Text
  | blank => "migration name is empty"
  | noWords => "migration name has no words"
  | noTable => "no table name"
  | unknownVerb word => "'" ++ word ++ "' is not a recognized verb"
  | flawed flaw => flaw.message
  | stated message => message

def FieldFault.message : FieldFault → Text
  | unbalanced => "unbalanced parentheses or quotes"
  | missingName => "missing column name"
  | missingType => "missing column type"
  | unclosedCall => "expected ')' at the end of a call"
  | argumentsTwice => "constructor arguments given twice"
  | notBoolean modifier value =>
    "modifier '" ++ modifier.keyword ++ "' expects true or false, got '" ++ value ++ "'"
  | valueMissing modifier => "modifier '" ++ modifier.keyword ++ "' requires a value"
  | valueBlank modifier => "modifier '" ++ modifier.keyword ++ "' has an empty value"
  | flawed flaw => flaw.message
  | stated message => message

def TemplateFault.message : TemplateFault → Text
  | malformed => "Failed to parse '__tera_one_off'"
  | missingValue key =>
    "Failed to render '__tera_one_off': Variable `" ++ key ++
      "` not found in context while rendering '__tera_one_off'"
  | stated message => message

def DiskFault.message : DiskFault → Text
  | notFound => "No such file or directory (os error 2)"
  | alreadyExists => "File exists (os error 17)"
  | notDirectory => "Not a directory (os error 20)"
  | isDirectory => "Is a directory (os error 21)"
  | notText => "stream did not contain valid UTF-8"
  | stated message => message

namespace Error

def message : Error → Text
  | invalidName name fault => "Invalid migration name '" ++ name ++ "': " ++ fault.message
  | malformedField index chunk fault =>
    "Malformed field #" ++ Nat.toDigits 10 index ++ " '" ++ chunk ++ "': " ++ fault.message
  | unsupportedModifier index keyword =>
    "Unsupported modifier '" ++ keyword ++ "' in field #" ++ Nat.toDigits 10 index
  | invalid flaw => "Validation error: " ++ flaw.message
  | templateFailed template fault =>
    "Template rendering failed for '" ++ template ++ "': " ++ fault.message
  | migrationExists path => "Migration already exists: " ++ path
  | disk fault => "IO error: " ++ fault.message
  | fileUnread path fault => "Failed to read file '" ++ path ++ "': " ++ fault.message
  | fileUnwritten path fault => "Failed to write file '" ++ path ++ "': " ++ fault.message
  | directoryNotCreated path fault =>
    "Failed to create directory '" ++ path ++ "': " ++ fault.message
  | invalidConfig explanation => "Invalid configuration: " ++ explanation
  | inContext context message => context ++ ": " ++ message

def chain : Error → List Text
  | disk fault => [message (disk fault), fault.message]
  | error => [message error]

def isParse : Error → Bool
  | invalidName .. | malformedField .. | unsupportedModifier .. | invalid .. => true
  | _ => false

def isDisk : Error → Bool
  | disk .. | fileUnread .. | fileUnwritten .. | directoryNotCreated .. => true
  | _ => false

def fieldIndex? : Error → Option Nat
  | malformedField index .. | unsupportedModifier index .. => some index
  | _ => none

def within (context : Text) (error : Error) : Error := inContext context error.message

end Error

end Migrations
