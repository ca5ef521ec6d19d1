/-!
# Help pages

What a program says about itself: its purpose, how it is called, and tables of the words
and options that it understands.

## Main Definitions

* `HelpRow`, `HelpTable`: names with what they mean
* `HelpPage.render`: the text of a page

## Design Notes

The meanings of a table begin in one column, also where there is nothing to be said, so a
row may end in spaces.
-/

namespace LoginThrottle

/-- A name and what it means. -/
structure HelpRow where
  name : String
  meaning : String
  deriving DecidableEq, Repr

/-- Rows under a title. -/
structure HelpTable where
  title : String
  rows : List HelpRow
  deriving DecidableEq, Repr

/-- What a program says about itself. -/
structure HelpPage where
  purpose : String
  usage : String
  tables : List HelpTable
  deriving DecidableEq, Repr

namespace HelpRow

/-- The row for help itself, in a table whose options have letters. -/
def help : HelpRow := ⟨"-h, --help", "Print help"⟩

/-- The row for the version. -/
def version : HelpRow := ⟨"-V, --version", "Print version"⟩

/-- The row of an option without a letter, set off so that its name stands below others. -/
def option (name value meaning : String) : HelpRow :=
  ⟨"    --" ++ name ++ " <" ++ value ++ ">", meaning⟩

/-- A row whose meaning begins behind `width` characters and two spaces. -/
def render (width : Nat) (row : HelpRow) : String :=
  let padding := String.ofList (List.replicate (width - row.name.length) ' ')
  "  " ++ row.name ++ padding ++ "  " ++ row.meaning ++ "\n"

end HelpRow

namespace HelpTable

/-- The length of the longest name. -/
def width (table : HelpTable) : Nat :=
  (table.rows.map fun row => row.name.length).foldl max 0

/-- The title and the rows of a table, set apart from what stands before. -/
def render (table : HelpTable) : String :=
  "\n" ++ table.title ++ ":\n" ++ String.join (table.rows.map (HelpRow.render table.width))

end HelpTable

/-- The text of a page. -/
def HelpPage.render (page : HelpPage) : String :=
  page.purpose ++ "\n\nUsage: " ++ page.usage ++ "\n"
    ++ String.join (page.tables.map HelpTable.render)

/-- How a variable of the environment is mentioned. -/
def environmentNote (name value : String) : String :=
  "[env: " ++ name ++ "=" ++ value ++ "]"

end LoginThrottle
