import MarketHub.Tables

/-!
The rows of the demonstration (`app/catalog/seed.py`, `app/catalog/demo.py`, `app/auth/seed.py`,
`app/orders/seed.py`, `app/communication/seed.py`, `app/support/seed.py`), as the tables of the
seed list them.
-/

namespace MarketHub.Seed

/-- `SELLER_A_ID`. -/
def sellerAId : UUID := 0x11111111111111111111111111111111

/-- `SELLER_B_ID`. -/
def sellerBId : UUID := 0x22222222222222222222222222222222

/-- `SELLER_TECH_ID`. -/
def sellerTechId : UUID := 0x55555555555555555555555555555551

/-- `SELLER_CASA_ID`. -/
def sellerCasaId : UUID := 0x55555555555555555555555555555552

/-- `SELLER_ESPORTE_ID`. -/
def sellerEsporteId : UUID := 0x55555555555555555555555555555553

/-- `SELLER_LIVROS_ID`. -/
def sellerLivrosId : UUID := 0x55555555555555555555555555555554

/-- `SELLER_MODA_ID`. -/
def sellerModaId : UUID := 0x55555555555555555555555555555555

/-- `SELLER_KIDS_ID`. -/
def sellerKidsId : UUID := 0x55555555555555555555555555555556

/-- `SELLER_A_USER_ID`. -/
def sellerAUserId : UUID := 0xaaaaaaaa111111111111111111111111

/-- `SELLER_B_USER_ID`. -/
def sellerBUserId : UUID := 0xbbbbbbbb222222222222222222222222

/-- `BUYER_ID`. -/
def buyerId : UUID := 0x33333333333333333333333333333333

/-- `OPS_ID`. -/
def opsId : UUID := 0x44444444444444444444444444444444

/-- `SELLER_TECH_USER_ID`. -/
def sellerTechUserId : UUID := 0xaaaaaaaa555555555555555555555551

/-- `SELLER_CASA_USER_ID`. -/
def sellerCasaUserId : UUID := 0xaaaaaaaa555555555555555555555552

/-- `SELLER_ESPORTE_USER_ID`. -/
def sellerEsporteUserId : UUID := 0xaaaaaaaa555555555555555555555553

/-- `SELLER_LIVROS_USER_ID`. -/
def sellerLivrosUserId : UUID := 0xaaaaaaaa555555555555555555555554

/-- `SELLER_MODA_USER_ID`. -/
def sellerModaUserId : UUID := 0xaaaaaaaa555555555555555555555555

/-- `SELLER_KIDS_USER_ID`. -/
def sellerKidsUserId : UUID := 0xaaaaaaaa555555555555555555555556

/-- `BUYER_ANA_ID`. -/
def buyerAnaId : UUID := 0x66666666666666666666666666666661

/-- `BUYER_BRUNO_ID`. -/
def buyerBrunoId : UUID := 0x66666666666666666666666666666662

/-- `BUYER_CARLA_ID`. -/
def buyerCarlaId : UUID := 0x66666666666666666666666666666663

/-- `BUYER_DIEGO_ID`. -/
def buyerDiegoId : UUID := 0x66666666666666666666666666666664

/-- `BUYER_ELENA_ID`. -/
def buyerElenaId : UUID := 0x66666666666666666666666666666665

/-- `BUYER_FABIO_ID`. -/
def buyerFabioId : UUID := 0x66666666666666666666666666666666

/-- `BUYER_GIOVANA_ID`. -/
def buyerGiovanaId : UUID := 0x66666666666666666666666666666667

/-- `BUYER_HENRIQUE_ID`. -/
def buyerHenriqueId : UUID := 0x66666666666666666666666666666668

/-- `BUYER_ISABEL_ID`. -/
def buyerIsabelId : UUID := 0x66666666666666666666666666666669

/-- `BUYER_JOAO_ID`. -/
def buyerJoaoId : UUID := 0x6666666666666666666666666666666a

/-- `SEED_SELLERS`. -/
def seedSellerRows : List (UUID × Seller) :=
  [(sellerAId, ⟨"Loja A"⟩), (sellerBId, ⟨"Loja B"⟩)]

/-- `DEMO_SELLERS`. -/
def demoSellers : List (UUID × Seller) :=
  [(sellerTechId, ⟨"Tech Hub"⟩), (sellerCasaId, ⟨"Casa Viva"⟩),
   (sellerEsporteId, ⟨"Esporte Total"⟩), (sellerLivrosId, ⟨"Livraria Norte"⟩),
   (sellerModaId, ⟨"Moda Urban"⟩), (sellerKidsId, ⟨"Kids World"⟩)]

/-- `PRODUCTS`: number, name and description. -/
def products : List (ℕ × String × String) :=
  [(1, "Notebook 14 polegadas", "Ultrabook para trabalho e estudo, 16 GB RAM."),
   (2, "Monitor 27 polegadas", "Painel IPS Full HD com suporte ajustavel."),
   (3, "Fone Bluetooth", "Fone intra-auricular com estojo carregador."),
   (4, "SSD 1 TB", "Unidade NVMe para upgrade de notebook."),
   (5, "Teclado mecanico", "Switch linear, layout ABNT2 e RGB."),
   (6, "Webcam Full HD", "Camera com microfone para chamadas."),
   (7, "Carregador USB-C", "Fonte 30 W compativel com notebooks leves."),
   (8, "Smartphone flagship", "Aparelho top de linha com 256 GB."),
   (9, "Camiseta basica", "Algodao 100%, corte reto, varias cores."),
   (10, "Calca jeans", "Jeans reta com elastano, lavagem media."),
   (11, "Jaqueta corta-vento", "Corta-vento leve com capuz."),
   (12, "Tenis casual", "Solado borracha e cabedal em lona."),
   (13, "Vestido midi", "Tecido fluido, manga curta."),
   (14, "Cinto de couro", "Fivela metalica, largura 3 cm."),
   (15, "Relogio analogico", "Caixa 40 mm, pulseira de couro."),
   (16, "Jogo de panelas", "5 pecas antiaderentes com tampas."),
   (17, "Aspirador vertical", "Sem fio, autonomia de 40 minutos."),
   (18, "Luminaria de mesa", "Braco articulado e luz branca ajustavel."),
   (19, "Jogo de cama queen", "200 fios, inclui fronhas."),
   (20, "Cafeteira eletrica", "Jarra de 15 xicaras com placa aquecida."),
   (21, "Bola de futebol", "Campo oficial, costura termica."),
   (22, "Tapete de yoga", "6 mm, antiderrapante."),
   (23, "Garrafa termica", "750 ml, inox, mantem 12 h."),
   (24, "Bicicleta urbana", "Aro 29, 21 marchas."),
   (25, "Livro de receitas", "200 receitas brasileiras ilustradas."),
   (26, "Romance contemporaneo", "Edicao de bolso, 320 paginas."),
   (27, "Guia pratico de Python", "Introducao objetiva para iniciantes."),
   (28, "Historia do Brasil", "Panorama ilustrado do seculo XVI ao XX."),
   (29, "Blocos de montar 500 pecas", "Kit criativo a partir de 6 anos."),
   (30, "Boneca articulada", "30 cm, roupas trocaveis."),
   (31, "Quebra-cabeca 1000 pecas", "Paisagem litoranea."),
   (32, "Carrinho de controle remoto", "Alcance 30 m, bateria recarregavel.")]

/-- A row of `OFFERS`; the price in cents. -/
structure DemoOffer where
  n : ℕ
  productN : ℕ
  sellerId : UUID
  price : ℕ
  baseStock : ℕ
  available : Bool

/-- `OFFERS`. -/
def offers : List DemoOffer :=
  [⟨1, 1, sellerAId, 349900, 20, true⟩, ⟨2, 1, sellerTechId, 329900, 16, true⟩,
   ⟨3, 2, sellerAId, 129900, 12, true⟩, ⟨4, 3, sellerAId, 19900, 50, true⟩,
   ⟨5, 3, sellerTechId, 17900, 30, true⟩, ⟨6, 4, sellerTechId, 49900, 24, true⟩,
   ⟨7, 5, sellerAId, 34900, 18, true⟩, ⟨8, 5, sellerTechId, 32900, 20, true⟩,
   ⟨9, 6, sellerTechId, 25900, 32, true⟩, ⟨10, 7, sellerAId, 3990, 90, true⟩,
   ⟨11, 8, sellerAId, 549900, 6, true⟩, ⟨12, 8, sellerTechId, 529900, 1, true⟩,
   ⟨13, 9, sellerBId, 4990, 110, true⟩, ⟨14, 9, sellerModaId, 3990, 70, true⟩,
   ⟨15, 10, sellerBId, 18900, 30, true⟩, ⟨16, 11, sellerBId, 29900, 16, true⟩,
   ⟨17, 12, sellerBId, 24900, 22, true⟩, ⟨18, 12, sellerAId, 25900, 12, true⟩,
   ⟨19, 13, sellerModaId, 21900, 10, true⟩, ⟨20, 14, sellerBId, 7900, 5, false⟩,
   ⟨21, 15, sellerBId, 89900, 8, true⟩, ⟨22, 16, sellerCasaId, 34900, 18, true⟩,
   ⟨23, 17, sellerCasaId, 79900, 9, true⟩, ⟨24, 18, sellerCasaId, 11900, 24, true⟩,
   ⟨25, 19, sellerCasaId, 15900, 20, true⟩, ⟨26, 20, sellerCasaId, 42900, 3, false⟩,
   ⟨27, 21, sellerEsporteId, 8900, 44, true⟩, ⟨28, 22, sellerEsporteId, 7990, 38, true⟩,
   ⟨29, 23, sellerEsporteId, 5990, 52, true⟩, ⟨30, 24, sellerEsporteId, 249900, 6, true⟩,
   ⟨31, 25, sellerLivrosId, 5990, 42, true⟩, ⟨32, 26, sellerLivrosId, 4490, 32, true⟩,
   ⟨33, 27, sellerLivrosId, 11900, 22, true⟩, ⟨34, 28, sellerLivrosId, 6990, 10, false⟩,
   ⟨35, 29, sellerKidsId, 18900, 16, true⟩, ⟨36, 30, sellerKidsId, 12900, 18, true⟩,
   ⟨37, 31, sellerKidsId, 7990, 22, true⟩, ⟨38, 32, sellerKidsId, 15900, 12, true⟩,
   ⟨39, 2, sellerTechId, 119900, 8, true⟩, ⟨40, 10, sellerModaId, 19900, 13, true⟩,
   ⟨41, 16, sellerAId, 37900, 10, true⟩, ⟨42, 21, sellerAId, 9900, 20, true⟩,
   ⟨43, 25, sellerAId, 6490, 24, true⟩, ⟨44, 7, sellerTechId, 3490, 2, true⟩,
   ⟨45, 11, sellerModaId, 27900, 11, true⟩, ⟨46, 4, sellerAId, 51900, 9, true⟩]

/-- The users of `seed_users`. -/
def seedUserRows : List (UUID × User) :=
  [(sellerAUserId, ⟨"loja-a@example.com", "Loja A", .seller, some sellerAId⟩),
   (sellerBUserId, ⟨"loja-b@example.com", "Loja B", .seller, some sellerBId⟩),
   (buyerId, ⟨"buyer@example.com", "Buyer Demo", .buyer, none⟩),
   (opsId, ⟨"ops@example.com", "Ops Demo", .ops, none⟩)]

/-- The users of `seed_demo_users`. -/
def demoUsers : List (UUID × User) :=
  [(sellerTechUserId, ⟨"techhub@example.com", "Tech Hub", .seller, some sellerTechId⟩),
   (sellerCasaUserId, ⟨"casa-viva@example.com", "Casa Viva", .seller, some sellerCasaId⟩),
   (sellerEsporteUserId, ⟨"esporte-total@example.com", "Esporte Total", .seller,
     some sellerEsporteId⟩),
   (sellerLivrosUserId, ⟨"livraria-norte@example.com", "Livraria Norte", .seller,
     some sellerLivrosId⟩),
   (sellerModaUserId, ⟨"moda-urban@example.com", "Moda Urban", .seller, some sellerModaId⟩),
   (sellerKidsUserId, ⟨"kids-world@example.com", "Kids World", .seller, some sellerKidsId⟩),
   (buyerAnaId, ⟨"ana.silva@example.com", "Ana Silva", .buyer, none⟩),
   (buyerBrunoId, ⟨"bruno.costa@example.com", "Bruno Costa", .buyer, none⟩),
   (buyerCarlaId, ⟨"carla.mendes@example.com", "Carla Mendes", .buyer, none⟩),
   (buyerDiegoId, ⟨"diego.alves@example.com", "Diego Alves", .buyer, none⟩),
   (buyerElenaId, ⟨"elena.rocha@example.com", "Elena Rocha", .buyer, none⟩),
   (buyerFabioId, ⟨"fabio.nunes@example.com", "Fabio Nunes", .buyer, none⟩),
   (buyerGiovanaId, ⟨"giovana.dias@example.com", "Giovana Dias", .buyer, none⟩),
   (buyerHenriqueId, ⟨"henrique.lima@example.com", "Henrique Lima", .buyer, none⟩),
   (buyerIsabelId, ⟨"isabel.freitas@example.com", "Isabel Freitas", .buyer, none⟩),
   (buyerJoaoId, ⟨"joao.martins@example.com", "Joao Martins", .buyer, none⟩)]

/-- The keys of `BUYERS`. -/
inductive BuyerKey where
  | demo | ana | bruno | carla | diego | elena | fabio | giovana | henrique | isabel | joao
  deriving DecidableEq

/-- `BUYERS`. -/
def buyers : BuyerKey → UUID
  | .demo => buyerId
  | .ana => buyerAnaId
  | .bruno => buyerBrunoId
  | .carla => buyerCarlaId
  | .diego => buyerDiegoId
  | .elena => buyerElenaId
  | .fabio => buyerFabioId
  | .giovana => buyerGiovanaId
  | .henrique => buyerHenriqueId
  | .isabel => buyerIsabelId
  | .joao => buyerJoaoId

/-- An item of a row of `ORDERS`. -/
structure DemoItem where
  itemN : ℕ
  offerN : ℕ
  quantity : ℕ
  status : OrderItemStatus
  cancelledFrom : Option OrderItemStatus := none

/-- A row of `ORDERS`. -/
structure DemoOrder where
  orderN : ℕ
  buyer : BuyerKey
  hoursAgo : ℤ
  items : List DemoItem

/-- `ORDERS`. -/
def orders : List DemoOrder :=
  [⟨1, .demo, 2, [⟨1, 1, 1, .placed, none⟩, ⟨2, 3, 1, .placed, none⟩, ⟨3, 4, 2, .placed, none⟩]⟩,
   ⟨2, .demo, 8, [⟨4, 7, 1, .preparing, none⟩, ⟨5, 13, 1, .preparing, none⟩]⟩,
   ⟨3, .demo, 20, [⟨6, 11, 1, .inTransit, none⟩]⟩,
   ⟨4, .demo, 36, [⟨7, 10, 4, .delivered, none⟩, ⟨8, 18, 1, .delivered, none⟩]⟩,
   ⟨5, .demo, 10, [⟨9, 4, 1, .cancelled, some .placed⟩]⟩,
   ⟨6, .demo, 72, [⟨10, 42, 10, .delivered, none⟩]⟩,
   ⟨7, .demo, 5,
    [⟨11, 1, 1, .preparing, none⟩, ⟨12, 41, 1, .preparing, none⟩,
     ⟨13, 43, 1, .preparing, none⟩]⟩,
   ⟨8, .ana, 3,
    [⟨14, 3, 1, .placed, none⟩, ⟨15, 7, 2, .placed, none⟩,
     ⟨16, 10, 1, .placed, none⟩]⟩,
   ⟨9, .bruno, 12,
    [⟨17, 18, 1, .inTransit, none⟩, ⟨18, 41, 1, .inTransit, none⟩,
     ⟨19, 46, 1, .inTransit, none⟩]⟩,
   ⟨10, .carla, 24,
    [⟨20, 1, 1, .delivered, none⟩, ⟨21, 4, 1, .delivered, none⟩,
     ⟨22, 11, 1, .delivered, none⟩]⟩,
   ⟨11, .diego, 6,
    [⟨23, 7, 1, .cancelled, some .preparing⟩, ⟨24, 10, 1, .cancelled, some .preparing⟩,
     ]⟩,
   ⟨12, .elena, 48, [⟨25, 42, 2, .delivered, none⟩, ⟨26, 43, 1, .delivered, none⟩]⟩,
   ⟨13, .fabio, 4, [⟨27, 13, 2, .placed, none⟩, ⟨28, 15, 1, .placed, none⟩]⟩,
   ⟨14, .giovana, 15, [⟨29, 16, 1, .inTransit, none⟩]⟩,
   ⟨15, .henrique, 30,
    [⟨30, 17, 1, .delivered, none⟩, ⟨31, 21, 1, .delivered, none⟩,
     ⟨32, 15, 1, .delivered, none⟩]⟩,
   ⟨16, .isabel, 2, [⟨33, 13, 1, .cancelled, some .placed⟩]⟩,
   ⟨17, .joao, 9, [⟨34, 22, 1, .preparing, none⟩, ⟨35, 23, 1, .preparing, none⟩]⟩,
   ⟨18, .ana, 18, [⟨36, 24, 1, .delivered, none⟩]⟩,
   ⟨19, .bruno, 40, [⟨37, 27, 1, .placed, none⟩, ⟨38, 28, 2, .placed, none⟩]⟩,
   ⟨20, .carla, 7, [⟨39, 30, 1, .inTransit, none⟩]⟩,
   ⟨21, .diego, 50, [⟨40, 31, 1, .delivered, none⟩, ⟨41, 32, 1, .delivered, none⟩]⟩,
   ⟨22, .elena, 3,
    [⟨42, 35, 1, .placed, none⟩, ⟨43, 36, 1, .placed, none⟩,
     ⟨44, 37, 1, .placed, none⟩]⟩,
   ⟨23, .fabio, 22, [⟨45, 2, 1, .preparing, none⟩]⟩,
   ⟨24, .giovana, 11, [⟨46, 6, 1, .delivered, none⟩, ⟨47, 9, 1, .delivered, none⟩]⟩,
   ⟨25, .henrique, 28, [⟨48, 12, 1, .cancelled, some .inTransit⟩]⟩,
   ⟨26, .isabel, 16,
    [⟨49, 5, 1, .preparing, none⟩, ⟨50, 8, 1, .preparing, none⟩,
     ⟨51, 39, 1, .preparing, none⟩]⟩,
   ⟨27, .joao, 1, [⟨52, 19, 1, .placed, none⟩]⟩,
   ⟨28, .demo, 14, [⟨53, 13, 1, .preparing, none⟩, ⟨54, 22, 1, .preparing, none⟩]⟩,
   ⟨29, .ana, 60, [⟨55, 25, 1, .delivered, none⟩, ⟨56, 33, 1, .delivered, none⟩]⟩,
   ⟨30, .bruno, 8, [⟨57, 40, 1, .placed, none⟩]⟩,
   ⟨31, .carla, 33, [⟨58, 29, 1, .delivered, none⟩, ⟨59, 27, 1, .delivered, none⟩]⟩,
   ⟨32, .diego, 4,
    [⟨60, 35, 1, .placed, none⟩, ⟨61, 38, 1, .placed, none⟩,
     ⟨62, 36, 1, .placed, none⟩]⟩,
   ⟨33, .elena, 20, [⟨63, 45, 1, .inTransit, none⟩]⟩,
   ⟨34, .fabio, 70, [⟨64, 31, 1, .delivered, none⟩, ⟨65, 27, 1, .delivered, none⟩]⟩,
   ⟨35, .giovana, 6,
    [⟨66, 22, 1, .preparing, none⟩, ⟨67, 24, 1, .preparing, none⟩,
     ⟨68, 25, 1, .preparing, none⟩]⟩,
   ⟨36, .henrique, 12, [⟨69, 2, 1, .inTransit, none⟩, ⟨70, 8, 1, .inTransit, none⟩]⟩]

/-- A row of `CONVERSATIONS`. -/
structure DemoConversation where
  convN : ℕ
  itemN : ℕ
  reason : ConversationReason
  status : ConversationStatus
  createdHours : ℤ
  lastHours : ℤ
  override : Option Priority

/-- `CONVERSATIONS`. -/
def conversations : List DemoConversation :=
  [⟨1, 6, .atraso, .opened, 60, 3, some .critical⟩, ⟨2, 39, .atraso, .opened, 7, 2, none⟩,
   ⟨3, 17, .reclamacao, .opened, 12, 4, none⟩, ⟨4, 29, .suporte, .opened, 15, 5, none⟩,
   ⟨5, 1, .atraso, .opened, 2, 1, none⟩, ⟨6, 45, .reclamacao, .opened, 22, 6, none⟩,
   ⟨7, 14, .suporte, .opened, 3, 1, none⟩, ⟨8, 42, .outros, .opened, 3, 2, none⟩,
   ⟨9, 52, .elogio, .opened, 1, 1, none⟩, ⟨10, 34, .troca, .opened, 9, 3, none⟩,
   ⟨11, 27, .devolucao, .opened, 4, 2, none⟩, ⟨12, 63, .atraso, .opened, 20, 8, none⟩,
   ⟨13, 7, .elogio, .closed, 36, 30, none⟩, ⟨14, 20, .troca, .closed, 24, 20, none⟩,
   ⟨15, 36, .suporte, .closed, 18, 16, none⟩, ⟨16, 40, .reclamacao, .closed, 50, 40, none⟩]

/-- A row of `MESSAGES`. -/
structure DemoMessage where
  msgN : ℕ
  convN : ℕ
  author : AuthorType
  hoursAgo : ℤ
  content : String

/-- `MESSAGES`. -/
def messages : List DemoMessage :=
  [⟨1, 1, .buyer, 60, "O smartphone ainda nao foi coletado pela transportadora."⟩,
   ⟨2, 1, .seller, 48, "Ha atraso no centro de distribuicao. Vamos priorizar."⟩,
   ⟨3, 1, .buyer, 3, "Ja passou de dois dias. Preciso do aparelho nesta semana."⟩,
   ⟨4, 2, .buyer, 7, "A bicicleta saiu para entrega? O rastreio nao atualiza."⟩,
   ⟨5, 2, .seller, 2, "A transportadora confirmou a saida hoje pela manha."⟩,
   ⟨6, 3, .buyer, 12, "O tenis chegou com o solado descascando."⟩,
   ⟨7, 3, .seller, 6, "Pode enviar fotos? Abrimos a analise de qualidade."⟩,
   ⟨8, 3, .buyer, 4, "Enviei as fotos no e-mail. Quero troca do par."⟩,
   ⟨9, 4, .buyer, 15, "A jaqueta veio em tamanho P e pedi M."⟩,
   ⟨10, 4, .seller, 5, "Vamos emitir a etiqueta de troca ainda hoje."⟩,
   ⟨11, 5, .buyer, 2, "O notebook consta como realizado ha horas. Tem previsao?"⟩,
   ⟨12, 5, .seller, 1, "Acabou de entrar na fila de separacao."⟩,
   ⟨13, 6, .buyer, 22, "Paguei o notebook mais barato e o status parou em preparacao."⟩,
   ⟨14, 6, .seller, 10, "Houve divergencia de estoque. Estamos regularizando."⟩,
   ⟨15, 6, .buyer, 6, "Se nao sair hoje, vou cancelar."⟩,
   ⟨16, 7, .buyer, 3, "O monitor veio sem cabo HDMI. Conseguem enviar um?"⟩,
   ⟨17, 8, .buyer, 3, "Os blocos vieram com uma peca diferente da caixa."⟩,
   ⟨18, 8, .seller, 2, "Pode fotografar a peca extra? Trocamos sem custo."⟩,
   ⟨19, 9, .buyer, 1, "O vestido chegou rapido e a estampa e linda. Obrigado!"⟩,
   ⟨20, 10, .buyer, 9, "A panela antiaderente ja esta descascando na primeira semana."⟩,
   ⟨21, 10, .seller, 3, "Separando um jogo novo para envio de troca."⟩,
   ⟨22, 11, .buyer, 4, "Quero devolver a camiseta; o tecido e mais fino do que a foto."⟩,
   ⟨23, 11, .seller, 2, "A devolucao esta autorizada. Etiqueta no e-mail."⟩,
   ⟨24, 12, .buyer, 20, "A jaqueta da Moda Urban esta parada em transito."⟩,
   ⟨25, 12, .seller, 12, "Abrimos chamado na transportadora."⟩,
   ⟨26, 12, .buyer, 8, "Ainda sem atualizacao. Podem cobrar eles?"⟩,
   ⟨27, 13, .buyer, 36, "O carregador chegou antes do prazo. Excelente."⟩,
   ⟨28, 13, .seller, 30, "Que bom! Qualquer coisa estamos por aqui."⟩,
   ⟨29, 14, .buyer, 24, "Quero trocar o notebook por outro com mais memoria."⟩,
   ⟨30, 14, .seller, 20, "A troca foi concluida. Encerramos por aqui."⟩,
   ⟨31, 15, .buyer, 18, "A luminaria nao liga na tomada."⟩,
   ⟨32, 15, .seller, 16, "Enviamos a peca de reposicao. Conversa encerrada."⟩,
   ⟨33, 16, .buyer, 50, "O livro de receitas veio com paginas repetidas."⟩,
   ⟨34, 16, .seller, 40, "Reenvio feito. Caso persista, abra outra conversa."⟩]

/-- A row of `COMMENTS`. -/
structure DemoComment where
  n : ℕ
  itemN : ℕ
  authorId : UUID
  authorType : AuthorType
  hoursAgo : ℤ
  content : String

/-- `COMMENTS`. -/
def comments : List DemoComment :=
  [⟨1, 6, sellerAUserId, .seller, 4,
    "Comprador cobrando o flagship. Transportadora sem previsao."⟩,
   ⟨2, 6, opsId, .ops, 2,
    "Marquei critical. Escalar para o SLA de atraso em itens acima de 5 mil."⟩,
   ⟨3, 39, sellerEsporteUserId, .seller, 3,
    "Bicicleta em transito sem atualizacao. Rastreio parado."⟩,
   ⟨4, 39, opsId, .ops, 1,
    "Prioridade alta pela politica. Acompanhar a transportadora ate amanha."⟩,
   ⟨5, 45, sellerTechUserId, .seller, 8,
    "Estoque divergente no notebook concorrente. Cliente ameaca cancelar."⟩]

end MarketHub.Seed
