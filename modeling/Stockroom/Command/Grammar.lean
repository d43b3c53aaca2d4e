import Stockroom.Command.Basic

/-!
# The command table

Each command is a sequence of words in upper case followed by its parameters in order.  The table is plain data;
finding a command in a line is in `Stockroom.Command.Matching`, checking its arguments in
`Stockroom.Command.Argument`.
-/

namespace Stockroom

inductive ParameterType where
  | text
  | number
  deriving DecidableEq, Repr

/-- The name of a type in messages. -/
def ParameterType.name : ParameterType → String
  | text => "string"
  | number => "number"

structure Parameter where
  name : String
  type : ParameterType
  required : Bool
  deriving DecidableEq, Repr

structure Definition where
  words : List String
  operation : Operation
  description : String
  usage : String
  parameters : List Parameter
  deriving DecidableEq, Repr

/-- The words of the command as they are shown. -/
def Definition.name (d : Definition) : String :=
  " ".intercalate d.words

namespace Parameter

def productName : Parameter := ⟨"PRODUCT NAME", .text, true⟩

def sku : Parameter := ⟨"SKU", .text, true⟩

def warehouse : Parameter := ⟨"WAREHOUSE#", .number, true⟩

def stockLimit : Parameter := ⟨"STOCK_LIMIT", .number, false⟩

def quantity : Parameter := ⟨"QTY", .number, true⟩

end Parameter

/-- The definition of each operation. -/
def Operation.definition : Operation → Definition
  | addProduct =>
    { words := ["ADD", "PRODUCT"]
      operation := addProduct
      description := "Add a product to the catalog"
      usage := "ADD PRODUCT \"<name>\" <sku>"
      parameters := [.productName, .sku] }
  | addWarehouse =>
    { words := ["ADD", "WAREHOUSE"]
      operation := addWarehouse
      description := "Add a warehouse, or change its stock limit"
      usage := "ADD WAREHOUSE <warehouse#> [stock limit]"
      parameters := [.warehouse, .stockLimit] }
  | stock =>
    { words := ["STOCK"]
      operation := stock
      description := "Add units of a product to a warehouse"
      usage := "STOCK <sku> <warehouse#> <qty>"
      parameters := [.sku, .warehouse, .quantity] }
  | unstock =>
    { words := ["UNSTOCK"]
      operation := unstock
      description := "Remove units of a product from a warehouse"
      usage := "UNSTOCK <sku> <warehouse#> <qty>"
      parameters := [.sku, .warehouse, .quantity] }
  | listProducts =>
    { words := ["LIST", "PRODUCTS"]
      operation := listProducts
      description := "List every product in the catalog"
      usage := "LIST PRODUCTS"
      parameters := [] }
  | listWarehouses =>
    { words := ["LIST", "WAREHOUSES"]
      operation := listWarehouses
      description := "List every warehouse with its stock limit"
      usage := "LIST WAREHOUSES"
      parameters := [] }
  | listWarehouse =>
    { words := ["LIST", "WAREHOUSE"]
      operation := listWarehouse
      description := "List the stock held in one warehouse"
      usage := "LIST WAREHOUSE <warehouse#>"
      parameters := [.warehouse] }

/-- Every command, in the order of the reference. -/
def commandTable : List Definition :=
  [.addProduct, .addWarehouse, .stock, .unstock, .listProducts, .listWarehouses, .listWarehouse].map
    Operation.definition

/-- The largest number of words of a command. -/
def maxCommandWords : Nat :=
  (commandTable.map (·.words.length)).foldl max 0

/-! ### The command reference -/

def padRight (width : Nat) (s : String) : String :=
  s ++ String.ofList (List.replicate (width - s.length) ' ')

def commandReference : String :=
  let line (d : Definition) := "  " ++ padRight 42 d.usage ++ " " ++ d.description
  "Commands (command words are case-insensitive):\n" ++ "\n".intercalate (commandTable.map line) ++
    "\n\nQuote names that contain spaces."

end Stockroom
