import Stockroom.Command.Argument
import Stockroom.Command.Matching
import Stockroom.Command.Quoting

/-!
# From a line to a command

A line is settled, its command is looked up, the rest is cut into tokens, and these are checked and put together.
-/

namespace Stockroom

open Text

/-- Puts an operation and its arguments together. -/
def Command.ofArguments (operation : Operation) (args : Arguments) : Except Fault Command :=
  match operation with
  | .addProduct => do
    let name ← args.text Parameter.productName.name
    let sku ← args.text Parameter.sku.name
    return .addProduct name sku
  | .addWarehouse => do
    let number ← args.number Parameter.warehouse.name
    return .addWarehouse number (args.number? Parameter.stockLimit.name)
  | .stock => do
    let sku ← args.text Parameter.sku.name
    let warehouse ← args.number Parameter.warehouse.name
    let quantity ← args.number Parameter.quantity.name
    return .stock sku warehouse quantity
  | .unstock => do
    let sku ← args.text Parameter.sku.name
    let warehouse ← args.number Parameter.warehouse.name
    let quantity ← args.number Parameter.quantity.name
    return .unstock sku warehouse quantity
  | .listProducts => return .listProducts
  | .listWarehouses => return .listWarehouses
  | .listWarehouse => do
    let warehouse ← args.number Parameter.warehouse.name
    return .listWarehouse warehouse

/-- The arguments of a text for the given parameters. -/
def readArguments (parameters : List Parameter) (text : List Char) : Except Fault Arguments :=
  (validate parameters ((tokens text).map String.ofList)).arguments

/-- Reads a line as a command. -/
def Command.parse (line : String) : Except Fault Command := do
  let found ← matchCommand commandTable (settleQuotes line.toList)
  let args ← readArguments found.definition.parameters found.remainder
  Command.ofArguments found.definition.operation args

theorem readArguments_eq (parameters : List Parameter) (text : List Char) :
    readArguments parameters text =
      Arguments.ofChecked (checkArguments parameters ((tokens text).map String.ofList)) :=
  arguments_validate _ _

end Stockroom
