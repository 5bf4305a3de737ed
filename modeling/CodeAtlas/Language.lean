import CodeAtlas.Vocabulary

/-! # Languages

The languages that a file can be written in, their names, and the table of file extensions. -/
namespace CodeAtlas

/-- The language of a file; `unknown` stands for every other. -/
inductive Language where
  | javaScript
  | typeScript
  | python
  | java
  | go
  | ruby
  | php
  | c
  | cpp
  | cSharp
  | rust
  | swift
  | kotlin
  | scala
  | vue
  | html
  | css
  | scss
  | json
  | yaml
  | xml
  | markdown
  | sql
  | shell
  | unknown
  deriving DecidableEq, Repr, Inhabited

namespace Language

/-- The name by which a language is stored and asked for. -/
def name : Language → String
  | javaScript => "javascript"
  | typeScript => "typescript"
  | python => "python"
  | java => "java"
  | go => "go"
  | ruby => "ruby"
  | php => "php"
  | c => "c"
  | cpp => "cpp"
  | cSharp => "csharp"
  | rust => "rust"
  | swift => "swift"
  | kotlin => "kotlin"
  | scala => "scala"
  | vue => "vue"
  | html => "html"
  | css => "css"
  | scss => "scss"
  | json => "json"
  | yaml => "yaml"
  | xml => "xml"
  | markdown => "markdown"
  | sql => "sql"
  | shell => "shell"
  | unknown => "unknown"

/-- The name of a language in a record: words of the name apart. -/
def recordName : Language → String
  | javaScript => "java_script"
  | typeScript => "type_script"
  | cSharp => "c_sharp"
  | l => l.name

def all : List Language :=
  [.javaScript, .typeScript, .python, .java, .go, .ruby, .php, .c, .cpp, .cSharp, .rust, .swift,
    .kotlin, .scala, .vue, .html, .css, .scss, .json, .yaml, .xml, .markdown, .sql, .shell,
    .unknown]

def vocabulary : Vocabulary Language := ⟨"language", all, name⟩

/-- Extensions in lower case and the languages they stand for. -/
def extensions : List (String × Language) :=
  [("js", .javaScript), ("jsx", .javaScript), ("mjs", .javaScript), ("cjs", .javaScript),
    ("ts", .typeScript), ("tsx", .typeScript), ("mts", .typeScript), ("cts", .typeScript),
    ("py", .python), ("pyi", .python), ("java", .java), ("go", .go), ("rb", .ruby),
    ("php", .php), ("c", .c), ("h", .c), ("cpp", .cpp), ("cc", .cpp), ("cxx", .cpp),
    ("hpp", .cpp), ("hh", .cpp), ("cs", .cSharp), ("rs", .rust), ("swift", .swift),
    ("kt", .kotlin), ("kts", .kotlin), ("scala", .scala), ("vue", .vue), ("html", .html),
    ("htm", .html), ("css", .css), ("scss", .scss), ("sass", .scss), ("json", .json),
    ("yml", .yaml), ("yaml", .yaml), ("xml", .xml), ("md", .markdown), ("markdown", .markdown),
    ("sql", .sql), ("sh", .shell), ("bash", .shell), ("zsh", .shell)]

/-- The language of an extension, leading dots and ASCII case aside. -/
def ofExtension (extension : String) : Language :=
  let key := String.ofList ((extension.toList.dropWhile (· = '.')).map Char.toLower)
  ((extensions.find? (·.1 = key)).map (·.2)).getD .unknown

end Language

end CodeAtlas
