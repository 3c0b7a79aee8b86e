import SqlGrader.Problem

/-!
# Built-in problems

Two problems that need no file: one with a single table of users, and one with customers and
their orders.

Source: `builtin_problems`.
-/

set_option autoImplicit false

namespace SqlGrader.Problem

/-- The number `digits / 10 ^ places`. -/
def decimal (digits places : Nat) : Binary64 :=
  .ofDecimal false ⟨digits, -places⟩

def userAccounts : Problem where
  id := 1
  title := "User Authentication System"
  difficulty := .easy
  description := "Design a user authentication database with proper schema and query capabilities"
  requirements :=
    ["Create a 'users' table with id, name, email, and password columns",
     "The id column should be the primary key",
     "Store user's full name for display purposes",
     "Email should be used for login authentication",
     "Password field for secure authentication"]
  hints :=
    ["Start by clicking 'Add Table' to create the users table",
     "Use INT for id, VARCHAR(255) for text fields",
     "Mark id as Primary Key (PK)",
     "Make sure all required columns are present"]
  testCases :=
    [.schema
      { name := "Schema Validation"
        description := "Verify users table has all required columns"
        expectedTables :=
          [⟨"users", ["id", "name", "email", "password"]⟩]
        points := 30 },
     .query
      { name := "Get All Users"
        description := "SELECT * FROM users"
        query := "SELECT * FROM users"
        seed? := some (.rows
          [[.integer 1, .text "Alice Johnson", .text "alice@gmail.com", .text "alice123"],
           [.integer 2, .text "Bob Smith", .text "bob@yahoo.com", .text "bob456"],
           [.integer 3, .text "Charlie Brown", .text "charlie@gmail.com", .text "charlie789"],
           [.integer 4, .text "Diana Prince", .text "diana@outlook.com", .text "diana321"],
           [.integer 5, .text "Eve Wilson", .text "eve@gmail.com", .text "eve654"]])
        expectedOutput :=
          [[.integer 1, .text "Alice Johnson", .text "alice@gmail.com", .text "alice123"],
           [.integer 2, .text "Bob Smith", .text "bob@yahoo.com", .text "bob456"],
           [.integer 3, .text "Charlie Brown", .text "charlie@gmail.com", .text "charlie789"],
           [.integer 4, .text "Diana Prince", .text "diana@outlook.com", .text "diana321"],
           [.integer 5, .text "Eve Wilson", .text "eve@gmail.com", .text "eve654"]]
        points := 15 },
     .query
      { name := "Find Gmail Users"
        description := "SELECT * FROM users WHERE email LIKE '%gmail.com%'"
        query := "SELECT * FROM users WHERE email LIKE '%gmail.com%'"
        seed? := none
        expectedOutput :=
          [[.integer 1, .text "Alice Johnson", .text "alice@gmail.com", .text "alice123"],
           [.integer 3, .text "Charlie Brown", .text "charlie@gmail.com", .text "charlie789"],
           [.integer 5, .text "Eve Wilson", .text "eve@gmail.com", .text "eve654"]]
        points := 20 },
     .query
      { name := "Get Specific User"
        description := "SELECT * FROM users WHERE email = 'bob@yahoo.com'"
        query := "SELECT * FROM users WHERE email = 'bob@yahoo.com'"
        seed? := none
        expectedOutput :=
          [[.integer 2, .text "Bob Smith", .text "bob@yahoo.com", .text "bob456"]]
        points := 15 },
     .query
      { name := "Count Total Users"
        description := "SELECT COUNT(*) FROM users"
        query := "SELECT COUNT(*) FROM users"
        seed? := none
        expectedOutput :=
          [[.integer 5]]
        points := 20 }]

def customerOrders : Problem where
  id := 2
  title := "E-Commerce Order System"
  difficulty := .medium
  description := "Design a two-table database system for tracking customer orders"
  requirements :=
    ["Create a 'customers' table with id, name, and email",
     "Create an 'orders' table with id, customer_id, order_date, and total",
     "Link orders to customers using customer_id as foreign key",
     "Support tracking order dates and monetary totals"]
  hints :=
    ["You need two separate tables",
     "The orders.customer_id should reference customers.id",
     "Mark customer_id in orders as a Foreign Key (FK)",
     "Use DECIMAL type for monetary values"]
  testCases :=
    [.schema
      { name := "Schema Validation"
        description := "Verify both customers and orders tables exist with correct structure"
        expectedTables :=
          [⟨"customers", ["id", "name", "email"]⟩,
           ⟨"orders", ["id", "customer_id", "order_date", "total"]⟩]
        points := 40 },
     .query
      { name := "Get All Customers"
        description := "SELECT * FROM customers"
        query := "SELECT * FROM customers"
        seed? := some (.tables
          [("customers",
            [[.integer 1, .text "John Doe", .text "john@example.com"],
             [.integer 2, .text "Jane Smith", .text "jane@example.com"],
             [.integer 3, .text "Bob Wilson", .text "bob@example.com"]]),
           ("orders",
            [[.integer 1, .integer 1, .text "2024-01-15", .float (decimal 9999 2)],
             [.integer 2, .integer 1, .text "2024-02-20", .float (decimal 1495 1)],
             [.integer 3, .integer 2, .text "2024-01-10", .float (decimal 29999 2)],
             [.integer 4, .integer 3, .text "2024-03-05", .float (decimal 4999 2)]])])
        expectedOutput :=
          [[.integer 1, .text "John Doe", .text "john@example.com"],
           [.integer 2, .text "Jane Smith", .text "jane@example.com"],
           [.integer 3, .text "Bob Wilson", .text "bob@example.com"]]
        points := 20 },
     .query
      { name := "Find High Value Orders"
        description := "SELECT * FROM orders WHERE total > 100"
        query := "SELECT * FROM orders WHERE total > 100"
        seed? := none
        expectedOutput :=
          [[.integer 2, .integer 1, .text "2024-02-20", .float (decimal 1495 1)],
           [.integer 3, .integer 2, .text "2024-01-10", .float (decimal 29999 2)]]
        points := 20 },
     .query
      { name := "Count Total Orders"
        description := "SELECT COUNT(*) FROM orders"
        query := "SELECT COUNT(*) FROM orders"
        seed? := none
        expectedOutput :=
          [[.integer 4]]
        points := 20 }]

def builtin : List Problem :=
  [userAccounts, customerOrders]

def builtin? (id : Nat) : Option Problem :=
  builtin.find? (·.id == id)

end SqlGrader.Problem
